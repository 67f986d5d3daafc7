import ScriptConsole.Buffer.File

/-!
The shared buffer of a session, in memory or in a file, and the storage that holds what is in
it. Either kind answers the same calls in the same way.
-/

namespace ScriptConsole

/-- What the buffer in memory holds, and the files. -/
structure Storage where
  cell : Content
  files : Files

def Storage.empty : Storage := ⟨.empty, .empty⟩

inductive SharedBuffer where
  /-- The buffer in memory, with its identifier. -/
  | memory (id : String)
  | file (buffer : FileBuffer)
  deriving DecidableEq

namespace SharedBuffer

def memoryScheme : String := "memory://"

def fileScheme : String := "file://"

def url : SharedBuffer → String
  | memory id => memoryScheme ++ id
  | file buffer => buffer.url

/-- Another process can reach the buffer. -/
def isReachable (buffer : SharedBuffer) : Bool :=
  (Text.after? fileScheme.toList buffer.url.toList).isSome

def pollInterval : SharedBuffer → Duration
  | memory _ => ⟨defaultPollIntervalMs.toNat⟩
  | file buffer => buffer.pollInterval

def read (buffer : SharedBuffer) (storage : Storage) : Except BufferError Content :=
  match buffer with
  | memory _ => .ok storage.cell
  | file buffer => buffer.read storage.files

def write (buffer : SharedBuffer) (content : Content) (storage : Storage) :
    Except BufferError Storage :=
  match buffer with
  | memory _ => .ok { storage with cell := content }
  | file buffer => do return { storage with files := ← buffer.write content storage.files }

/-- The buffer holds nothing. -/
def clear (buffer : SharedBuffer) : Storage → Except BufferError Storage :=
  buffer.write .empty

/-- Whoever waits for the buffer is to give up. -/
def close (buffer : SharedBuffer) : Storage → Except BufferError Storage :=
  buffer.write .closed

/-- One look for a content that is newer than the line numbered `after`. -/
def readNewer (buffer : SharedBuffer) (after : Option UInt64) (storage : Storage) :
    Except BufferError (Option Content) := do
  let content ← buffer.read storage
  return if content.isNewerThan after then some content else none

end SharedBuffer
end ScriptConsole
