import ScriptConsole.Buffer.File
import ScriptConsole.Proofs.Url.Path

/-!
A buffer in a file is opened again by its URL: the path that the URL names has the same parts and
leads to the same file. The one exception is a file whose name ends like that of a drive, for which
the URL is read as that of a directory.
-/

namespace ScriptConsole.FileBuffer

variable {path : Path} {files files' : Files} {opened : FileBuffer}

theorem exists_find_of_create (hcreate : create path files = .ok (opened, files')) :
    opened.path = path.within files.directory ∧
      ∃ place entry, files'.find opened.path = .ok (place, entry) := by
  have hfound {files : Files} {path : Path} (hholds : files.holds path = true) :
      ∃ place entry, files.find path = .ok (place, entry) := by
    rw [Files.holds, Files.stat] at hholds
    cases hfind : files.find path with
    | error cause => simp [hfind, bind, Except.bind] at hholds
    | ok found => exact ⟨found.1, found.2, rfl⟩
  simp only [create, ofIo, bind, Except.bind, pure, Except.pure] at hcreate
  split at hcreate
  · next hholds =>
    cases hcreate
    exact ⟨rfl, hfound hholds⟩
  · cases hwrite : files.write (path.within files.directory) [] with
    | error cause => simp [hwrite] at hcreate
    | ok written =>
        simp only [hwrite, Except.ok.injEq, Prod.mk.injEq] at hcreate
        obtain ⟨rfl, rfl⟩ := hcreate
        have hread := Files.readBytes_replace (Files.replace_of_write hwrite)
        exact ⟨rfl, hfound (Files.holds_of_readBytes hread)⟩

theorem create_of_find (habsolute : path.isAbsolute = true) {found : List Name × FileEntry}
    (hfind : files.find path = .ok found) :
    create path files = .ok (⟨path, ⟨defaultPollIntervalMs.toNat⟩⟩, files) := by
  have hholds : files.holds path = true := by
    rw [Files.holds, Files.stat, hfind]
    rfl
  simp only [create, Path.within, habsolute, hholds, if_true, bind, Except.bind, pure, Except.pure]

theorem create_of_endsInSlash (habsolute : path.isAbsolute = true)
    (hmissing : files.holds path = false) (hend : path.endsInSlash = true) :
    ∃ cause, create path files = .error (.io cause) := by
  obtain ⟨cause, hwrite⟩ : ∃ cause, files.write path [] = .error cause :=
    Files.write_of_endsInSlash hend []
  refine ⟨cause, ?_⟩
  simp only [create, Path.within, habsolute, hmissing, hwrite, ofIo, if_true, Bool.false_eq_true,
    if_false, bind, Except.bind]

/-! ### The path that is read back -/

/-- A path as its URL names it. -/
def reread (path : Path) : Path :=
  Path.ofParts path.parts (Url.meansDirectory path.parts)

theorem ofUrl_url_eq (habove : Path.above ∉ opened.path.parts) (files : Files) :
    ofUrl opened.url files = create (reread opened.path) files := by
  rw [ofUrl, url, Url.toPath_ofPath habove, reread]

theorem isAbsolute_reread (path : Path) : (reread path).isAbsolute = true := by
  apply Path.isAbsolute_ofParts
  intro hnil
  rw [hnil]
  rfl

theorem eq_nil_of_meansDirectory {parts : List Name}
    (hplain : ∀ part ∈ parts.getLast?, Url.endsLikeDrive part = false)
    (hmeans : Url.meansDirectory parts = true) : parts = [] := by
  cases hlast : parts.getLast? with
  | none => exact List.getLast?_eq_none_iff.mp hlast
  | some part =>
      rw [Url.meansDirectory, hlast, Option.all_some, hplain part hlast] at hmeans
      cases hmeans

/-- Only the root and what ends like a drive are read back as directories. What is one is found
again, if its path is not too long for one more slash. -/
theorem find_reread {place : List Name} {entry : FileEntry} (habsolute : path.isAbsolute = true)
    (hfind : files.find path = .ok (place, entry))
    (hcase : (∀ part ∈ path.parts.getLast?, Url.endsLikeDrive part = false) ∨
      entry = .directory ∧ path.bytes.length + 1 < Path.limit) :
    files.find (reread path) = .ok (place, entry) := by
  obtain ⟨-, hshort, -⟩ := (Files.find_eq_ok_iff habsolute).mp hfind
  have hlength := (Path.sublist_ofParts habsolute).length_le
  apply Files.find_ofParts habsolute hfind
  · intro hnil
    rw [hnil]
    rfl
  · intro hmeans
    rcases hcase with hplain | ⟨hentry, -⟩
    · exact Files.eq_directory_of_root habsolute hfind (eq_nil_of_meansDirectory hplain hmeans)
    · exact hentry
  · cases hmeans : Url.meansDirectory path.parts with
    | false => exact Nat.lt_of_le_of_lt hlength hshort
    | true =>
        rcases hcase with hplain | ⟨-, hlong⟩
        · rw [eq_nil_of_meansDirectory hplain hmeans]
          decide
        · rw [Path.bytes_ofParts_true, List.length_append, List.length_singleton]
          omega

/-- A file whose name ends like that of a drive is looked for as a directory. -/
theorem create_reread_of_file {place : List Name} {bytes : List UInt8}
    (habsolute : path.isAbsolute = true) (hfind : files.find path = .ok (place, .file bytes))
    (hdrive : ∃ part ∈ path.parts.getLast?, Url.endsLikeDrive part = true) :
    ∃ cause, create (reread path) files = .error (.io cause) := by
  obtain ⟨part, hlast, hpart⟩ := hdrive
  have hmeans : Url.meansDirectory path.parts = true := by
    rw [Url.meansDirectory, hlast, Option.all_some, hpart]
  apply create_of_endsInSlash (isAbsolute_reread path)
  · rw [reread, hmeans]
    exact Files.holds_ofParts_true_of_file habsolute hfind rfl
  · rw [reread, hmeans, Path.endsInSlash_ofParts, Bool.true_or]

/-- The URL of a buffer names a path with the same parts, which leads to the same place. If the last
part ends like the name of a drive, that holds of a directory, and a file cannot be opened. -/
theorem ofUrl_url (hdirectory : files.directory.isAbsolute = true)
    (hcreate : create path files = .ok (opened, files'))
    (habove : Path.above ∉ opened.path.parts) :
    ((∀ part ∈ opened.path.parts.getLast?, Url.endsLikeDrive part = false) ∨
        files'.stat opened.path = .ok .directory ∧ opened.path.bytes.length + 1 < Path.limit →
      ∃ again, ofUrl opened.url files' = .ok (again, files') ∧
        again.path.parts = opened.path.parts ∧
        again.path.isAbsolute = opened.path.isAbsolute ∧
        files'.find again.path = files'.find opened.path) ∧
    ((∃ part ∈ opened.path.parts.getLast?, Url.endsLikeDrive part = true) →
        (∃ bytes, files'.readBytes opened.path = .ok bytes) →
      ∃ cause, ofUrl opened.url files' = .error (.io cause)) := by
  obtain ⟨hpath, place, entry, hfind⟩ := exists_find_of_create hcreate
  have habsolute : opened.path.isAbsolute = true := hpath ▸ Path.isAbsolute_within hdirectory path
  rw [ofUrl_url_eq habove]
  constructor
  · intro hcase
    have hagain : files'.find (reread opened.path) = .ok (place, entry) := by
      apply find_reread habsolute hfind
      refine hcase.imp_right fun ⟨hstat, hlong⟩ => ⟨?_, hlong⟩
      rw [Files.stat, hfind] at hstat
      exact Except.ok.inj hstat
    exact ⟨_, create_of_find (isAbsolute_reread opened.path) hagain, Path.parts_ofParts _ _,
      (isAbsolute_reread opened.path).trans habsolute.symm, hagain.trans hfind.symm⟩
  · rintro hdrive ⟨bytes, hread⟩
    cases entry with
    | file stored => exact create_reread_of_file habsolute hfind hdrive
    | directory =>
        rw [Files.readBytes, Files.stat, hfind] at hread
        cases hread

/-- A name with marks of a URL, an encoded point, the end of a line and a byte of no character. -/
theorem ofUrl_url_of_marks :
    ∃ opened files again,
      create ⟨[47, 32, 37, 50, 101, 35, 63, 92, 10, 255, 58]⟩ .empty = .ok (opened, files) ∧
        ofUrl opened.url files = .ok (again, files) ∧
        again.path.parts = [[32, 37, 50, 101, 35, 63, 92, 10, 255, 58]] := by
  obtain ⟨again, hagain, hparts, -⟩ := (@ofUrl_url
    ⟨[47, 32, 37, 50, 101, 35, 63, 92, 10, 255, 58]⟩ .empty _ _ rfl rfl (by decide)).1
    (.inl (by decide))
  exact ⟨_, _, again, rfl, hagain, hparts⟩

/-- The URL of a file whose name ends in a letter and a colon does not lead back to it. -/
theorem ofUrl_url_of_drive :
    ∃ opened files, create ⟨[47, 97, 98, 58]⟩ .empty = .ok (opened, files) ∧
      ofUrl opened.url files = .error (.io .isDirectory) := by
  refine ⟨_, _, rfl, ?_⟩
  rw [ofUrl_url_eq (by decide)]
  rfl

end ScriptConsole.FileBuffer
