import ScriptConsole.Files.Tree

/-!
Where the text of a whole program comes from: a text at hand, or a file that is read anew on
every run.
-/

namespace ScriptConsole

inductive Source where
  | text (name text : String)
  | file (path : Path)
  deriving DecidableEq

namespace Source

def name : Source → String
  | text name _ => name
  | file path => path.text

/-- The text as it is now. -/
def current (source : Source) (files : Files) : Except IoError String :=
  match source with
  | text _ body => .ok body
  | file path => do
      match ← files.stat path with
      | .directory => throw .notAFile
      | .file _ => files.readText path

end Source
end ScriptConsole
