import Mathlib.Data.List.Flatten
import ScriptConsole.Proofs.Files.Tree
import ScriptConsole.Proofs.Text.Lines

/-!
A path leads where its parts lead: empty names and names of the directory itself may be left out.
A slash at the end asks for a directory and for nothing else.
-/

namespace ScriptConsole

namespace Path

/-- The shortest path with these parts, with a slash at its end if it is to be a directory's. -/
def ofParts (parts : List Name) (directory : Bool) : Path :=
  ⟨(if directory then parts ++ [[]] else parts).flatMap (slash :: ·)⟩

variable {path : Path}

theorem mem_parts {part : Name} (h : part ∈ path.parts) :
    slash ∉ part ∧ part ≠ [] ∧ part ≠ here := by
  simp only [parts, names, List.mem_filter, bne_iff_ne] at h
  exact ⟨Text.notMem_of_mem_splitOn h.1.1, h.1.2, h.2⟩

theorem pieces_ofParts (path : Path) (directory : Bool) :
    (ofParts path.parts directory).pieces =
      [] :: if directory then path.parts ++ [[]] else path.parts := by
  have hpart (part : Name) (hpart : part ∈ path.parts) (c : UInt8) (hc : c ∈ part) :
      (c == slash) = false :=
    beq_eq_false_iff_ne.mpr fun h => (mem_parts hpart).1 (h ▸ hc)
  apply Text.splitOnP_flatMap (p := (· == slash)) (beq_self_eq_true slash)
  intro piece hpiece c hc
  cases directory with
  | false => exact hpart piece hpiece c hc
  | true =>
      rcases List.mem_append.mp hpiece with hmem | hmem
      · exact hpart piece hmem c hc
      · rw [List.mem_singleton.mp hmem] at hc
        cases hc

theorem names_ofParts (path : Path) (directory : Bool) :
    (ofParts path.parts directory).names = path.parts := by
  have hkept : path.parts.filter (· != []) = path.parts := by
    rw [List.filter_eq_self]
    intro part hpart
    exact bne_iff_ne.mpr (mem_parts hpart).2.1
  rw [names, pieces_ofParts]
  cases directory <;> simp [hkept]

theorem parts_ofParts (path : Path) (directory : Bool) :
    (ofParts path.parts directory).parts = path.parts := by
  rw [parts, names_ofParts, List.filter_eq_self]
  intro part hpart
  exact bne_iff_ne.mpr (mem_parts hpart).2.2

theorem endsInSlash_ofParts (path : Path) (directory : Bool) :
    (ofParts path.parts directory).endsInSlash = (directory || path.parts == []) := by
  rw [endsInSlash, pieces_ofParts]
  cases directory with
  | true =>
      rw [if_pos rfl, ← List.cons_append, List.getLast?_concat]
      rfl
  | false =>
      rcases List.eq_nil_or_concat path.parts with hnil | ⟨init, last, hlast⟩
      · rw [hnil]
        rfl
      · have hfull : last ≠ [] := (mem_parts (by rw [hlast]; simp)).2.1
        rw [hlast, List.concat_eq_append, if_neg Bool.false_ne_true, ← List.cons_append,
          List.getLast?_concat, Bool.false_or, beq_eq_false_iff_ne.mpr (by simpa using hfull),
          beq_eq_false_iff_ne.mpr (by simp)]

theorem isAbsolute_ofParts {parts : List Name} {directory : Bool}
    (h : parts = [] → directory = true) : (ofParts parts directory).isAbsolute = true := by
  cases parts with
  | nil =>
      rw [h rfl]
      rfl
  | cons part parts => cases directory <;> rfl

theorem sublist_ofParts (habsolute : path.isAbsolute = true) :
    (ofParts path.parts false).bytes.Sublist path.bytes := by
  obtain ⟨bytes⟩ := path
  cases bytes with
  | nil => cases habsolute
  | cons b bytes =>
      obtain rfl : b = slash := by simpa [isAbsolute] using habsolute
      have hpieces : (⟨slash :: bytes⟩ : Path).pieces = [] :: bytes.splitOn slash :=
        List.splitOn_append_cons_self [] bytes
      calc
        ((⟨slash :: bytes⟩ : Path).parts.flatMap (slash :: ·)).Sublist
            ((bytes.splitOn slash).flatMap (slash :: ·)) := by
          apply List.Sublist.flatMap
          rw [parts, names, hpieces, List.filter_cons_of_neg (by simp)]
          exact List.filter_sublist.trans List.filter_sublist
        _ = slash :: bytes := Text.flatMap_splitOn slash bytes

theorem bytes_ofParts_true (parts : List Name) :
    (ofParts parts true).bytes = (ofParts parts false).bytes ++ [slash] := by
  simp [ofParts]

theorem isAbsolute_within {base : Path} (hbase : base.isAbsolute = true) (path : Path) :
    (path.within base).isAbsolute = true := by
  obtain ⟨bytes⟩ := base
  rw [within]
  split
  · assumption
  · cases bytes with
    | nil => cases hbase
    | cons b bytes => split <;> exact hbase

end Path

namespace Files

variable {files : Files} {path : Path} {place : List Name} {entry : FileEntry}

theorem origin_eq_ok_iff (habsolute : path.isAbsolute = true) {start : List Name} :
    files.origin path = .ok start ↔
      path.holdsNul = false ∧ path.bytes.length < Path.limit ∧ start = [] := by
  have hbytes : path.bytes ≠ [] := by
    intro hnil
    rw [Path.isAbsolute, hnil] at habsolute
    cases habsolute
  simp only [origin, if_neg hbytes, if_pos habsolute, bind, Except.bind, pure, Except.pure, throw,
    throwThe, MonadExceptOf.throw]
  by_cases hnul : path.holdsNul = true
  · simp [hnul]
  · by_cases hlong : Path.limit ≤ path.bytes.length
    · simp [hnul, hlong, Nat.not_lt_of_le hlong]
    · simp [hnul, hlong, Nat.lt_of_not_le hlong, eq_comm]

theorem find_eq_ok_iff (habsolute : path.isAbsolute = true) :
    files.find path = .ok (place, entry) ↔
      path.holdsNul = false ∧ path.bytes.length < Path.limit ∧
        files.walk [] path.names = .ok place ∧ files.get? place = some entry ∧
        (path.endsInSlash = true → entry = .directory) := by
  constructor
  · intro hfind
    simp only [find, bind, Except.bind, pure, Except.pure, throw, throwThe,
      MonadExceptOf.throw] at hfind
    cases horigin : files.origin path with
    | error cause => simp [horigin] at hfind
    | ok start =>
        obtain ⟨hnul, hfits, rfl⟩ := (origin_eq_ok_iff habsolute).mp horigin
        refine ⟨hnul, hfits, ?_⟩
        simp only [horigin] at hfind
        cases hwalk : files.walk [] path.names with
        | error cause => simp [hwalk] at hfind
        | ok stop =>
            simp only [hwalk] at hfind
            split at hfind
            · cases hfind
            · next hget =>
              cases hfind
              exact ⟨rfl, hget, fun _ => rfl⟩
            · next hget =>
              split at hfind
              · cases hfind
              · next hslash =>
                cases hfind
                exact ⟨rfl, hget, fun h => absurd h hslash⟩
  · rintro ⟨hnul, hfits, hwalk, hget, hend⟩
    simp only [find, (origin_eq_ok_iff habsolute).mpr ⟨hnul, hfits, rfl⟩, hwalk, hget, bind,
      Except.bind, pure, Except.pure]
    cases entry with
    | directory => rfl
    | file bytes =>
        refine if_neg ?_
        intro hslash
        cases hend hslash

/-- The names of the directory itself may be left out of a walk. -/
theorem walk_parts {here stop names : List Name} (hwalk : files.walk here names = .ok stop) :
    files.walk here (names.filter (· != Path.here)) = .ok stop := by
  induction names generalizing here with
  | nil => exact hwalk
  | cons name names ih =>
      by_cases hself : name = Path.here
      · obtain ⟨-, ⟨-, hrest⟩ | ⟨hother, -⟩ | ⟨hother, -⟩⟩ := walk_cons hwalk
        · rw [List.filter_cons_of_neg (by simp [hself])]
          exact ih hrest
        · exact absurd hself hother
        · exact absurd hself hother
      · rw [List.filter_cons_of_pos (by simpa using hself)]
        exact walk_cons_of id (fun _ hrest => ih hrest) hwalk

variable (habsolute : path.isAbsolute = true) (hfind : files.find path = .ok (place, entry))
include habsolute hfind

/-- The parts of a path lead where the path leads, if they are not to lead to a directory where
none is. -/
theorem find_ofParts {directory : Bool} (hroot : path.parts = [] → directory = true)
    (hdirectory : directory = true → entry = .directory)
    (hfits : (Path.ofParts path.parts directory).bytes.length < Path.limit) :
    files.find (Path.ofParts path.parts directory) = .ok (place, entry) := by
  obtain ⟨hnul, -, hwalk, hget, -⟩ := (find_eq_ok_iff habsolute).mp hfind
  rw [find_eq_ok_iff (Path.isAbsolute_ofParts hroot)]
  refine ⟨?_, hfits, ?_, hget, ?_⟩
  · simp only [Path.holdsNul, List.contains_eq_mem, decide_eq_false_iff_not] at hnul ⊢
    have hshort := fun h => hnul ((Path.sublist_ofParts habsolute).mem h)
    cases directory with
    | false => exact hshort
    | true =>
        rw [Path.bytes_ofParts_true, List.mem_append, not_or]
        exact ⟨hshort, by decide⟩
  · rw [Path.names_ofParts]
    exact walk_parts hwalk
  · rw [Path.endsInSlash_ofParts, Bool.or_eq_true, beq_iff_eq]
    rintro (h | h)
    · exact hdirectory h
    · exact hdirectory (hroot h)

theorem eq_directory_of_root (hroot : path.parts = []) : entry = .directory := by
  obtain ⟨-, -, hwalk, hget, -⟩ := (find_eq_ok_iff habsolute).mp hfind
  have hplace := walk_parts hwalk
  rw [← Path.parts, hroot, walk, Except.ok.injEq] at hplace
  rw [← hplace, get?, if_pos rfl, Option.some.injEq] at hget
  exact hget.symm

/-- With a slash behind them the parts of a path do not lead to a file. -/
theorem holds_ofParts_true_of_file {bytes : List UInt8} (hfile : entry = .file bytes) :
    files.holds (Path.ofParts path.parts true) = false := by
  obtain ⟨-, -, hwalk, hget, -⟩ := (find_eq_ok_iff habsolute).mp hfind
  rw [holds, stat]
  cases hother : files.find (Path.ofParts path.parts true) with
  | error cause => rfl
  | ok found =>
      obtain ⟨other, otherEntry⟩ := found
      obtain ⟨-, -, hotherWalk, hotherGet, hend⟩ :=
        (find_eq_ok_iff (Path.isAbsolute_ofParts fun _ => rfl)).mp hother
      rw [Path.names_ofParts, Path.parts, walk_parts hwalk, Except.ok.injEq] at hotherWalk
      rw [← hotherWalk, hget, hfile, hend (by rw [Path.endsInSlash_ofParts]; rfl)] at hotherGet
      cases hotherGet

omit habsolute hfind in
theorem write_of_endsInSlash (hend : path.endsInSlash = true) (bytes : List UInt8) :
    ∃ cause, files.write path bytes = .error cause := by
  simp only [write, bind, Except.bind, hend, Bool.or_true, if_true]
  cases files.parent path with
  | error cause => exact ⟨cause, rfl⟩
  | ok found =>
      obtain ⟨place, name?⟩ := found
      cases name? with
      | none => exact ⟨_, rfl⟩
      | some name => exact ⟨_, rfl⟩

end Files
end ScriptConsole
