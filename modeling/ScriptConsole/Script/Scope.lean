import ScriptConsole.Script.Dialogue
import ScriptConsole.Script.Fault

/-!
What a script can see and change besides the console: its global names and the modules that are
loaded. An `Action` only reads the scope; a `Running` may change it, and what it changed stays
when it fails.
-/

namespace ScriptConsole.Script

/-- The names, the modules that can be loaded and those that are loaded. -/
structure Scope where
  globals : List (String × Value)
  available : List String
  loaded : List String

namespace Scope

def get? (scope : Scope) (name : String) : Option Value :=
  scope.globals.lookup name

def set (scope : Scope) (name : String) (value : Value) : Scope :=
  { scope with
    globals := (name, value) :: scope.globals.filter fun entry => entry.1 != name }

def isLoaded (scope : Scope) (module : String) : Bool :=
  scope.loaded.contains module

/-- The module counts as loaded from now on. -/
def load (scope : Scope) (module : String) : Scope :=
  if scope.isLoaded module then scope
  else { scope with loaded := module :: scope.loaded }

end Scope

/-- A dialogue that may stop at a fault. -/
abbrev Action (α : Type) : Type :=
  ExceptT Fault Dialogue α

/-- A dialogue that may change the scope and may stop at a fault. -/
abbrev Running (α : Type) : Type :=
  ExceptT Fault (StateT Scope Dialogue) α

/-- A failure of the host as a fault of the script. -/
def ofHost {α : Type} : Except HostError α → Dialogue (Except Fault α)
  | .ok a => .done (.ok a)
  | .error cause => .done (.error (.host cause))

/-- Write a text to the standard output. -/
def say (text : String) : Action Unit :=
  ExceptT.mk (.stdout text ofHost)

/-- Write a text to the standard error. -/
def complain (text : String) : Action Unit :=
  ExceptT.mk (.stderr text ofHost)

/-- Ask the user for a line. -/
def ask (prompt : Option String) : Action String :=
  ExceptT.mk (.stdin prompt ofHost)

/-- An action on the present scope, as a script that leaves the scope alone. -/
def observe {α : Type} (action : Scope → Action α) : Running α :=
  ExceptT.mk fun scope => do return (← (action scope).run, scope)

end ScriptConsole.Script
