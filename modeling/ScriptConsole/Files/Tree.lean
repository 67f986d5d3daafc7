import ScriptConsole.Error
import ScriptConsole.Files.Path

/-!
A tree of directories and files. A file is reached by the names on the way to it from the root;
every name on the way must be that of a directory.
-/

namespace ScriptConsole

inductive FileEntry where
  | directory
  | file (bytes : List UInt8)
  deriving DecidableEq

structure Files where
  /-- The entries by their place, the root apart, which is always there. -/
  entries : List (List Name × FileEntry)
  /-- The working directory, where a path begins that does not begin at the root. -/
  directory : Path

namespace Files

def empty : Files := ⟨[], ⟨[Path.slash]⟩⟩

/-- The longest name that an entry may have. -/
def nameLimit : Nat := 255

def get? (files : Files) (place : List Name) : Option FileEntry :=
  if place = [] then some .directory else files.entries.lookup place

def set (files : Files) (place : List Name) (entry : FileEntry) : Files :=
  { files with entries := (place, entry) :: files.entries.filter fun e => e.1 != place }

def erase (files : Files) (place : List Name) : Files :=
  { files with entries := files.entries.filter fun e => !place.isPrefixOf e.1 }

/-- The place is that of a directory. -/
def requireDirectory (files : Files) (place : List Name) : Except IoError Unit :=
  match files.get? place with
  | none => .error .notFound
  | some (.file _) => .error .notDirectory
  | some .directory => .ok ()

/-- Go on from the directory at `here` through the names of a path. The last place need not
exist. -/
def walk (files : Files) (here : List Name) : List Name → Except IoError (List Name)
  | [] => .ok here
  | name :: names => do
      files.requireDirectory here
      if name = Path.here then files.walk here names
      else if name = Path.above then files.walk here.dropLast names
      else if name.length > nameLimit then throw .nameTooLong
      else files.walk (here ++ [name]) names

/-- The place where a path begins. -/
def origin (files : Files) (path : Path) : Except IoError (List Name) := do
  if path.holdsNul then throw .nulInName
  if Path.limit ≤ path.bytes.length then throw .nameTooLong
  if path.bytes = [] then throw .notFound
  if path.isAbsolute then return [] else files.walk [] files.directory.names

/-- The place that a path leads to and what is there. -/
def find (files : Files) (path : Path) : Except IoError (List Name × FileEntry) := do
  let place ← files.walk (← files.origin path) path.names
  match files.get? place with
  | none => throw .notFound
  | some .directory => return (place, .directory)
  | some (.file bytes) =>
      if path.endsInSlash then throw .notDirectory else return (place, .file bytes)

/-- What is at a path. -/
def stat (files : Files) (path : Path) : Except IoError FileEntry := do
  return (← files.find path).2

def holds (files : Files) (path : Path) : Bool :=
  match files.stat path with
  | .ok _ => true
  | .error _ => false

def readBytes (files : Files) (path : Path) : Except IoError (List UInt8) := do
  match ← files.stat path with
  | .directory => throw .isDirectory
  | .file bytes => return bytes

/-- The text of a file in UTF-8. -/
def readText (files : Files) (path : Path) : Except IoError String := do
  match Text.ofBytes? (← files.readBytes path) with
  | some text => return text
  | none => throw .notUtf8

/-- The directory that a path leads to and the last name in it, if there is a name. -/
def parent (files : Files) (path : Path) : Except IoError (List Name × Option Name) := do
  let place ← files.walk (← files.origin path) path.names.dropLast
  files.requireDirectory place
  return (place, path.names.getLast?)

/-- The name leads to a directory wherever it stands. -/
def isStep (name : Name) : Bool :=
  name == Path.here || name == Path.above

/-- Write a file, which is made if it is missing. -/
def write (files : Files) (path : Path) (bytes : List UInt8) : Except IoError Files := do
  match ← files.parent path with
  | (_, none) => throw .isDirectory
  | (place, some name) =>
      if isStep name || path.endsInSlash then throw .isDirectory
      if name.length > nameLimit then throw .nameTooLong
      match files.get? (place ++ [name]) with
      | some .directory => throw .isDirectory
      | _ => return files.set (place ++ [name]) (.file bytes)

/-- Move a complete file to a path, in place of the file that is there. -/
def replace (files : Files) (path : Path) (bytes : List UInt8) : Except IoError Files := do
  match ← files.parent path with
  | (_, none) => throw .busy
  | (place, some name) =>
      if isStep name then throw .busy
      if name.length > nameLimit then throw .nameTooLong
      if path.endsInSlash then throw .notDirectory
      match files.get? (place ++ [name]) with
      | some .directory => throw .isDirectory
      | _ => return files.set (place ++ [name]) (.file bytes)

/-- Remove what is at a path, with all that is under it. -/
def remove (files : Files) (path : Path) : Except IoError Files := do
  return files.erase (← files.find path).1

/-- Make the directories that are missing under `here`, one in the other. -/
def makeUnder (files : Files) (here : List Name) : List Name → Files
  | [] => files
  | part :: parts =>
      let place := here ++ [part]
      let files := if (files.get? place).isSome then files else files.set place .directory
      files.makeUnder place parts

/-- Make a directory at each step of a path. -/
def makeDirectories (files : Files) (path : Path) : Files :=
  files.makeUnder [] path.parts

end Files
end ScriptConsole
