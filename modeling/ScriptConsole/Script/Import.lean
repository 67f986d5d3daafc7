import ScriptConsole.Text.Blank
import ScriptConsole.Text.Lines
import ScriptConsole.Script.Scope

/-!
Import lines, and the loading of the modules that a script's import lines name before the
script runs.
-/

namespace ScriptConsole.Script

/-- The module that a dotted path begins with. -/
def moduleOf (path : List Char) : String :=
  String.ofList (path.takeWhile (· != '.'))

def importHead : List Char := "import ".toList

def fromHead : List Char := "from ".toList

/-- The modules that a line imports, in order; none if it is no import line. -/
def importedModules (line : List Char) : List String :=
  match Text.after? importHead line with
  | some rest => ((rest.splitOn ',').filterMap Text.firstWord).map moduleOf
  | none =>
      match Text.after? fromHead line with
      | some rest => ((Text.firstWord rest).map moduleOf).toList
      | none => []

def isImport (line : List Char) : Bool :=
  (Text.after? importHead line).isSome || (Text.after? fromHead line).isSome

/-- Modules that need no loading. -/
def builtinModules : List String := ["sys"]

/-- Load the modules, with a notice for each, that can be loaded and are not loaded yet. -/
def loadModules : List String → Running Unit
  | [] => return ()
  | module :: modules => do
      let scope ← getThe Scope
      if !scope.isLoaded module && scope.available.contains module then
        observe fun _ => say ("Loading " ++ module)
        modifyThe Scope (·.load module)
      loadModules modules

/-- Load what the import lines of a text name. -/
def loadImports (code : String) : Running Unit :=
  loadModules ((Text.lines code.toList).flatMap fun line => importedModules (Text.trim line))

/-- The import statement: every module must be loaded or need no loading. -/
def importModules : List String → Running Unit
  | [] => return ()
  | module :: modules => do
      let scope ← getThe Scope
      if scope.isLoaded module || builtinModules.contains module then
        set (scope.load module)
        importModules modules
      else throw (.missingModule module)

end ScriptConsole.Script
