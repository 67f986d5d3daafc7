import ScriptConsole.Text.Utf8

/-!
Paths as the bytes that name them. Empty parts and parts that name the directory itself do not
count.
-/

namespace ScriptConsole

/-- The name of an entry in a directory. -/
abbrev Name : Type := List UInt8

/-- Names with slashes between them. -/
structure Path where
  bytes : List UInt8
  deriving DecidableEq

namespace Path

def slash : UInt8 := 47

def point : UInt8 := 46

/-- The name of a directory in itself. -/
def here : Name := [point]

/-- The name of the directory above. -/
def above : Name := [point, point]

/-- A path of this many bytes is too long. -/
def limit : Nat := 4096

def ofString (text : String) : Path :=
  ⟨Text.toBytes text⟩

/-- The path for display. -/
def text (path : Path) : String :=
  String.ofList (Text.displayBytes path.bytes)

def pieces (path : Path) : List Name :=
  path.bytes.splitOn slash

/-- The names on the way, with those that lead nowhere. -/
def names (path : Path) : List Name :=
  path.pieces.filter (· != [])

/-- The names on the way that lead somewhere. -/
def parts (path : Path) : List Name :=
  path.names.filter (· != here)

def isAbsolute (path : Path) : Bool :=
  path.bytes.head? == some slash

/-- The path as seen from the directory `base`. -/
def within (path base : Path) : Path :=
  if path.isAbsolute then path
  else if base.bytes.getLast? = some slash then ⟨base.bytes ++ path.bytes⟩
  else ⟨base.bytes ++ slash :: path.bytes⟩

/-- The last piece is empty, so that only a directory can be meant. -/
def endsInSlash (path : Path) : Bool :=
  path.pieces.getLast? == some []

def holdsNul (path : Path) : Bool :=
  path.bytes.contains 0

/-- The path of an entry of a directory. -/
def child (path : Path) (name : Name) : Path :=
  ⟨path.bytes ++ slash :: name⟩

end Path
end ScriptConsole
