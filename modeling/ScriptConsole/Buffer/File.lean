import ScriptConsole.Buffer.Content
import ScriptConsole.Config
import ScriptConsole.Files.Tree
import ScriptConsole.Url

/-!
Shared buffers in files. Other processes reach such a buffer by its URL and look at the file now
and then. A write puts a complete file in place of the old one.
-/

namespace ScriptConsole

structure FileBuffer where
  path : Path
  pollInterval : Duration
  deriving DecidableEq

namespace FileBuffer

def url (buffer : FileBuffer) : String :=
  Url.ofPath buffer.path

def ofIo {α : Type} : Except IoError α → Except BufferError α
  | .ok a => .ok a
  | .error cause => .error (.io cause)

/-- Open the buffer at a path. A missing file is made. -/
def create (path : Path) (files : Files) : Except BufferError (FileBuffer × Files) := do
  let path := path.within files.directory
  let files ← if files.holds path then pure files else ofIo (files.write path [])
  return (⟨path, ⟨defaultPollIntervalMs.toNat⟩⟩, files)

/-- Open the buffer that a URL names. -/
def ofUrl (url : String) (files : Files) : Except BufferError (FileBuffer × Files) :=
  match Url.toPath url with
  | .error fault => .error (.invalidUrl url fault.message)
  | .ok path => create path files

/-- Look at the file at this interval, which is at least a millisecond. -/
def withPollInterval (buffer : FileBuffer) (interval : Duration) : FileBuffer :=
  { buffer with pollInterval := ⟨max interval.milliseconds 1⟩ }

def temporaryPrefix : String := "script-console-"

def temporaryName : String := "input.buf"

/-- The first directory under `base` with the prefix for buffers and a number from `n` on that
is not taken; `fuel` numbers are tried. -/
def freshDirectory (files : Files) (base : Path) (n : Nat) : Nat → Path
  | 0 => base.child (Text.toBytes (temporaryPrefix ++ String.ofList (Text.decimal n)))
  | fuel + 1 =>
      let path := base.child (Text.toBytes (temporaryPrefix ++ String.ofList (Text.decimal n)))
      if files.holds path then freshDirectory files base (n + 1) fuel else path

/-- Open a buffer in a new directory under `base`, which is the second result. -/
def temporary (base : Path) (files : Files) : Except BufferError (FileBuffer × Path × Files) := do
  let directory := freshDirectory files base 0 files.entries.length
  let files := files.makeDirectories directory
  let (buffer, files) ← create (directory.child (Text.toBytes temporaryName)) files
  return (buffer, directory, files)

/-- The content in the file. A missing file holds nothing. -/
def read (buffer : FileBuffer) (files : Files) : Except BufferError Content :=
  match files.readText buffer.path with
  | .ok raw => .ok (Content.decode raw.toList)
  | .error .notFound => .ok .empty
  | .error cause => .error (.io cause)

def write (buffer : FileBuffer) (content : Content) (files : Files) : Except BufferError Files :=
  ofIo (files.replace buffer.path (Text.toBytes (String.ofList content.encode)))

end FileBuffer
end ScriptConsole
