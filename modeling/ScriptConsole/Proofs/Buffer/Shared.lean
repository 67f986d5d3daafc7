import ScriptConsole.Buffer.Shared
import ScriptConsole.Proofs.Files.Tree
import ScriptConsole.Proofs.Wire.RoundTrip

/-!
A shared buffer holds what was last written to it, and that is what is read from it. To open the
buffer of a session once more changes nothing about what it holds.
-/

namespace ScriptConsole

namespace SharedBuffer

/-- The buffer is there and holds the content. -/
def Holds (buffer : SharedBuffer) (content : Content) (storage : Storage) : Prop :=
  match buffer with
  | memory _ => storage.cell = content
  | file buffer => ∃ bytes raw, storage.files.readBytes buffer.path = .ok bytes ∧
      Text.ofBytes? bytes = some raw ∧ Content.decode raw.toList = content

variable {buffer : SharedBuffer} {content : Content} {storage storage' : Storage}

theorem Holds.read (h : buffer.Holds content storage) : buffer.read storage = .ok content := by
  cases buffer with
  | memory id => exact congrArg Except.ok h
  | file file =>
      obtain ⟨bytes, raw, hbytes, hraw, hcontent⟩ := h
      simp only [SharedBuffer.read, FileBuffer.read, Files.readText, hbytes, hraw, bind,
        Except.bind, pure, Except.pure, hcontent]

theorem holds_write (hwrite : buffer.write content storage = .ok storage') :
    buffer.Holds content storage' := by
  cases buffer with
  | memory id =>
      cases hwrite
      rfl
  | file file =>
      simp only [SharedBuffer.write, FileBuffer.write, FileBuffer.ofIo, bind, Except.bind, pure,
        Except.pure] at hwrite
      cases hreplace : storage.files.replace file.path
          (Text.toBytes (String.ofList content.encode)) with
      | error cause => simp [hreplace] at hwrite
      | ok files =>
          simp only [hreplace, Except.ok.injEq] at hwrite
          subst hwrite
          refine ⟨_, _, Files.readBytes_replace hreplace, Text.ofBytes_toBytes _, ?_⟩
          rw [String.toList_ofList, Content.decode_encode]

/-- The session can write the buffer. -/
def IsWritable (buffer : SharedBuffer) (storage : Storage) : Prop :=
  ∃ content storage', buffer.write content storage = .ok storage'

theorem IsWritable.write (h : buffer.IsWritable storage) (content : Content) :
    ∃ storage', buffer.write content storage = .ok storage' ∧ buffer.Holds content storage' ∧
      buffer.IsWritable storage' := by
  obtain ⟨first, written, hfirst⟩ := h
  cases buffer with
  | memory id => exact ⟨_, rfl, rfl, .empty, _, rfl⟩
  | file file =>
      simp only [SharedBuffer.write, FileBuffer.write, FileBuffer.ofIo, bind, Except.bind, pure,
        Except.pure] at hfirst ⊢
      cases hreplace : storage.files.replace file.path
          (Text.toBytes (String.ofList first.encode)) with
      | error cause => simp [hreplace] at hfirst
      | ok files =>
          obtain ⟨⟨next, hnext⟩, -⟩ :=
            Files.replace_again hreplace (Text.toBytes (String.ofList content.encode))
          obtain ⟨-, again, hagain⟩ :=
            Files.replace_again hnext (Text.toBytes (String.ofList Content.empty.encode))
          have hwrite : (SharedBuffer.file file).write content storage =
              .ok { storage with files := next } := by
            simp only [SharedBuffer.write, FileBuffer.write, FileBuffer.ofIo, hnext, bind,
              Except.bind, pure, Except.pure]
          refine ⟨{ storage with files := next }, ?_, holds_write hwrite, .empty,
            { storage with files := again }, ?_⟩
          · simp only [hnext]
          · simp only [SharedBuffer.write, FileBuffer.write, FileBuffer.ofIo, hagain, bind,
              Except.bind, pure, Except.pure]

/-- The files of the buffer and of the worker are one: the worker finds the buffer by its URL. -/
def Named : SharedBuffer → Prop
  | memory _ => False
  | file buffer => Url.toPath buffer.url = .ok buffer.path ∧ buffer.path.isAbsolute = true

/-- To open the buffer by its URL changes no file, and gives the same file. -/
theorem Holds.exists_ofUrl (h : buffer.Holds content storage) (hnamed : buffer.Named) :
    ∃ opened, FileBuffer.ofUrl buffer.url storage.files = .ok (opened, storage.files) ∧
      ∃ file, buffer = .file file ∧ opened.path = file.path := by
  cases buffer with
  | memory id => exact hnamed.elim
  | file file =>
      obtain ⟨bytes, raw, hbytes, -⟩ := h
      obtain ⟨hurl, habsolute⟩ := hnamed
      have hholds := Files.holds_of_readBytes hbytes
      simp only [FileBuffer.ofUrl, SharedBuffer.url, hurl, FileBuffer.create, Path.within,
        habsolute, if_true, hholds, bind, Except.bind, pure, Except.pure]
      exact ⟨_, rfl, file, rfl, rfl⟩

theorem Holds.ofUrl (h : buffer.Holds content storage) (hnamed : buffer.Named)
    {opened : FileBuffer} {files : Files}
    (hopen : FileBuffer.ofUrl buffer.url storage.files = .ok (opened, files)) :
    files = storage.files ∧ ∃ file, buffer = .file file ∧ opened.path = file.path := by
  obtain ⟨found, hfound, hfile⟩ := h.exists_ofUrl hnamed
  rw [hfound] at hopen
  cases hopen
  exact ⟨rfl, hfile⟩

end SharedBuffer
end ScriptConsole
