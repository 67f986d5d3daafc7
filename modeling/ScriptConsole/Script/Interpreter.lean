import ScriptConsole.Interpreter
import ScriptConsole.Script.Program

/-!
The script language as an interpreter. It boots if every package it is asked for is available.
-/

namespace ScriptConsole.Script

/-- The packages that can be loaded unless others are named. -/
def defaultPackages : List String := ["json", "math", "random", "re"]

/-- Load every package before anything runs, or name the first that is not available. -/
def preload (scope : Scope) : List String → Except String Scope
  | [] => .ok scope
  | package :: packages =>
      if scope.available.contains package then preload (scope.load package) packages
      else .error ("package '" ++ package ++ "' is not available")

def boot (available : List String) (config : BootConfig) : Boot Scope :=
  match preload ⟨[], available, []⟩ config.packages with
  | .ok scope => .ready scope
  | .error reason => .refused reason

/-- The dialogue of a script, with its faults as exceptions. -/
def perform {α : Type} (script : Running α) (scope : Scope) : Dialogue (Ending α × Scope) := do
  match ← script.run scope with
  | (.ok a, scope) => return (.ok a, scope)
  | (.error fault, scope) => return (.raised fault.toScriptError, scope)

/-- The interpreter of the language, for a set of packages that can be loaded. -/
def interpreter (available : List String) : Interpreter Scope where
  boot := boot available
  load code := perform (loadImports code)
  run code := perform (runCode code)

end ScriptConsole.Script
