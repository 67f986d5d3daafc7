import ScriptConsole.Script.Dialogue

/-!
Interpreters as a worker sees them: something that boots from a configuration, loads what a
text imports and runs a text, each as a dialogue with the host. An interpreter may break down
at any point; nothing is known of its state then.
-/

namespace ScriptConsole

/-- What an interpreter is told when it boots. -/
structure BootConfig where
  baseUrl : String
  packages : List String
  deriving DecidableEq

/-- How a text ended: with a result, with an uncaught exception, or with a breakdown that left
a message or not. -/
inductive Ending (α : Type) where
  | ok (result : α)
  | raised (error : ScriptError)
  | panicked (message : Option String)

/-- How booting ended. -/
inductive Boot (σ : Type) where
  | ready (state : σ)
  | refused (reason : String)
  | panicked (message : Option String)

/-- An interpreter with states in `σ`. -/
structure Interpreter (σ : Type) where
  boot : BootConfig → Boot σ
  load : String → σ → Dialogue (Ending Unit × σ)
  run : String → σ → Dialogue (Ending (Option String) × σ)

/-- The reason that a breakdown is reported with. -/
def panicReason (message : Option String) : String :=
  "interpreter panicked: " ++ message.getD "unknown panic"

namespace Interpreter

/-- Load what the text imports and then, if that went well, run it. -/
def loadAndRun {σ : Type} (interpreter : Interpreter σ) (code : String) (state : σ) :
    Dialogue (Ending (Option String) × σ) := do
  match ← interpreter.load code state with
  | (.ok (), state) => interpreter.run code state
  | (.raised error, state) => return (.raised error, state)
  | (.panicked message, state) => return (.panicked message, state)

end Interpreter
end ScriptConsole
