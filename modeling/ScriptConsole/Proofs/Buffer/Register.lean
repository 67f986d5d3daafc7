import ScriptConsole.Proofs.Buffer.Shared

/-!
A shared buffer is a register: whatever is done with it, it answers what was last written. The
buffer in memory and a new buffer in a file are both such registers, so that nobody can tell one
from the other by its answers.
-/

namespace ScriptConsole.SharedBuffer

/-- What can be done with a shared buffer. -/
inductive Use where
  | write (content : Content)
  | clear
  | close
  | read
  /-- One look for a content that is newer than the line with this number. -/
  | readNewer (after : Option UInt64)

inductive Answer where
  | done
  | content (content : Content)
  | newer (content : Option Content)
  deriving DecidableEq

/-- Put a new content in the storage. What could not be written leaves the storage as it was. -/
def settle (storage : Storage) :
    Except BufferError Storage → Except BufferError Answer × Storage
  | .ok storage' => (.ok .done, storage')
  | .error fault => (.error fault, storage)

def perform (buffer : SharedBuffer) (storage : Storage) :
    Use → Except BufferError Answer × Storage
  | .write content => settle storage (buffer.write content storage)
  | .clear => settle storage (buffer.clear storage)
  | .close => settle storage (buffer.close storage)
  | .read => ((buffer.read storage).map .content, storage)
  | .readNewer after => ((buffer.readNewer after storage).map .newer, storage)

/-- The answers to some uses, one after the other. -/
def answers (buffer : SharedBuffer) : Storage → List Use → List (Except BufferError Answer)
  | _, [] => []
  | storage, use :: uses =>
      (buffer.perform storage use).1 :: buffer.answers (buffer.perform storage use).2 uses

namespace Use

/-- What a register holds after a use. -/
def leaves (use : Use) (held : Content) : Content :=
  match use with
  | write content => content
  | clear => .empty
  | close => .closed
  | read => held
  | readNewer _ => held

/-- What a register answers. -/
def tells (use : Use) (held : Content) : Answer :=
  match use with
  | write _ => .done
  | clear => .done
  | close => .done
  | read => .content held
  | readNewer after => .newer (if held.isNewerThan after then some held else none)

/-- What a register answers to some uses. -/
def tellsEach : Content → List Use → List Answer
  | _, [] => []
  | held, use :: uses => use.tells held :: tellsEach (use.leaves held) uses

end Use

/-- The buffer holds the content and can be written. -/
structure Serves (buffer : SharedBuffer) (held : Content) (storage : Storage) : Prop where
  holds : buffer.Holds held storage
  writable : buffer.IsWritable storage

variable {buffer : SharedBuffer} {held : Content} {storage : Storage}

theorem serves_memory (id : String) (storage : Storage) :
    (memory id).Serves storage.cell storage := by
  constructor
  · rfl
  · exact ⟨.empty, _, rfl⟩

theorem Serves.settle_write (h : buffer.Serves held storage) (content : Content) :
    (settle storage (buffer.write content storage)).1 = .ok .done ∧
      buffer.Serves content (settle storage (buffer.write content storage)).2 := by
  obtain ⟨storage', hwrite, hholds, hwritable⟩ := h.writable.write content
  rw [hwrite]
  exact ⟨rfl, hholds, hwritable⟩

theorem Serves.perform (h : buffer.Serves held storage) (use : Use) :
    (buffer.perform storage use).1 = .ok (use.tells held) ∧
      buffer.Serves (use.leaves held) (buffer.perform storage use).2 := by
  cases use with
  | write content => exact h.settle_write content
  | clear => exact h.settle_write .empty
  | close => exact h.settle_write .closed
  | read =>
      constructor
      · rw [SharedBuffer.perform, h.holds.read]
        rfl
      · exact h
  | readNewer after =>
      constructor
      · rw [SharedBuffer.perform, readNewer, h.holds.read]
        rfl
      · exact h

theorem Serves.answers (h : buffer.Serves held storage) (uses : List Use) :
    buffer.answers storage uses = (Use.tellsEach held uses).map .ok := by
  induction uses generalizing held storage with
  | nil => rfl
  | cons use uses ih =>
      obtain ⟨hanswer, hserves⟩ := h.perform use
      rw [SharedBuffer.answers, Use.tellsEach, List.map_cons, hanswer, ih hserves]

theorem decode_nil : Content.decode [] = .empty := by
  cbv

theorem serves_of_create {path : Path} {files files' : Files} {opened : FileBuffer}
    (hcreate : FileBuffer.create path files = .ok (opened, files'))
    (hmissing : files.holds (path.within files.directory) = false) (cell : Content) :
    (file opened).Serves .empty ⟨cell, files'⟩ := by
  simp only [FileBuffer.create, FileBuffer.ofIo, hmissing, bind, Except.bind, pure, Except.pure,
    Bool.false_eq_true, if_false] at hcreate
  cases hwrite : files.write (path.within files.directory) [] with
  | error cause => simp [hwrite] at hcreate
  | ok written =>
      simp only [hwrite, Except.ok.injEq, Prod.mk.injEq] at hcreate
      obtain ⟨rfl, rfl⟩ := hcreate
      have hreplace := Files.replace_of_write hwrite
      constructor
      · exact ⟨[], "", Files.readBytes_replace hreplace, rfl, decode_nil⟩
      · obtain ⟨-, next, hnext⟩ :=
          Files.replace_again hreplace (Text.toBytes (String.ofList Content.empty.encode))
        refine ⟨.empty, ⟨cell, next⟩, ?_⟩
        simp only [SharedBuffer.write, FileBuffer.write, FileBuffer.ofIo, hnext, bind, Except.bind,
          pure, Except.pure]

/-- A new buffer in a file and a new buffer in memory answer the same to every list of uses,
whatever else the storage holds. -/
theorem answers_file_eq_answers_memory {path : Path} {files files' : Files} {opened : FileBuffer}
    (hcreate : FileBuffer.create path files = .ok (opened, files'))
    (hmissing : files.holds (path.within files.directory) = false)
    (id : String) (cell : Content) (others : Files) (uses : List Use) :
    (file opened).answers ⟨cell, files'⟩ uses = (memory id).answers ⟨.empty, others⟩ uses := by
  rw [(serves_of_create hcreate hmissing cell).answers uses,
    (serves_memory id ⟨.empty, others⟩).answers uses]

/-- A line of quotes and the largest numbers, in a file in the root and in memory. -/
theorem answers_file_eq_answers_memory_largest :
    ∃ opened files, FileBuffer.create ⟨[Path.slash, 97]⟩ .empty = .ok (opened, files) ∧
      (file opened).answers ⟨.closed, files⟩
          [.read, .write (.line 18446744073709551615 18446744073709551615 "\"\\\n"),
            .readNewer (some 7), .readNewer (some 18446744073709551615), .close, .readNewer none,
            .clear, .read] =
        [.ok (.content .empty), .ok .done,
          .ok (.newer (some (.line 18446744073709551615 18446744073709551615 "\"\\\n"))),
          .ok (.newer none), .ok .done, .ok (.newer (some .closed)), .ok .done,
          .ok (.content .empty)] := by
  refine ⟨_, _, rfl, ?_⟩
  rw [@answers_file_eq_answers_memory ⟨[Path.slash, 97]⟩ .empty _ _ rfl (by decide) "memory"
    .closed .empty]
  rfl

end ScriptConsole.SharedBuffer
