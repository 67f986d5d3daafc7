import ScriptConsole.Interpreter
import ScriptConsole.Worker.Bridge

/-!
What a worker does, as a tree of the services that it asks of its surroundings: to post an
event, to wait for a line, and to open the shared buffer that it is to read.
-/

namespace ScriptConsole

/-- Why an event was not taken, and whether the worker had been stopped by then. -/
structure Refusal where
  error : TransportError
  terminated : Bool
  deriving DecidableEq

/-- What a script is told when an event of its own is not taken. -/
def Refusal.toHostError (refusal : Refusal) : HostError :=
  if refusal.terminated then .terminated else .disconnected

inductive Work (α : Type) where
  | done (result : α)
  | post (event : Event) (next : Except Refusal Unit → Work α)
  | await (bridge : Bridge) (request : UInt64)
      (next : Except HostError String → Bridge → Work α)
  | openBuffer (url : String) (interval : Duration) (next : Except BufferError Unit → Work α)

namespace Work

def bind {α β : Type} : Work α → (α → Work β) → Work β
  | done a, f => f a
  | post event next, f => post event fun r => (next r).bind f
  | await bridge request next, f => await bridge request fun r b => (next r b).bind f
  | openBuffer url interval next, f => openBuffer url interval fun r => (next r).bind f

instance : Monad Work where
  pure := done
  bind := bind

@[simp]
theorem done_bind {α β : Type} (a : α) (f : α → Work β) : (done a).bind f = f a := rfl

@[simp]
theorem bind_done {α : Type} (w : Work α) : w.bind done = w := by
  induction w with
  | done a => rfl
  | post event next ih => exact congrArg (post event) (funext ih)
  | await bridge request next ih =>
      exact congrArg (await bridge request) (funext fun r => funext fun b => ih r b)
  | openBuffer url interval next ih => exact congrArg (openBuffer url interval) (funext ih)

theorem bind_assoc {α β γ : Type} (w : Work α) (f : α → Work β) (g : β → Work γ) :
    (w.bind f).bind g = w.bind fun a => (f a).bind g := by
  induction w with
  | done a => rfl
  | post event next ih => exact congrArg (post event) (funext ih)
  | await bridge request next ih =>
      exact congrArg (await bridge request) (funext fun r => funext fun b => ih r b)
  | openBuffer url interval next ih => exact congrArg (openBuffer url interval) (funext ih)

instance : LawfulMonad Work :=
  LawfulMonad.mk' Work bind_done done_bind bind_assoc

/-- Post an event. -/
def send (event : Event) : Work (Except Refusal Unit) :=
  post event done

/-- The answer to a script whose write was posted as an event. -/
def toHost : Except Refusal Unit → Except HostError Unit
  | .ok () => .ok ()
  | .error refusal => .error refusal.toHostError

/-- The dialogue of a script, with its writes as events and its requests for input over the
bridge. -/
def ofDialogue {α : Type} (bridge : Bridge) : Dialogue α → Work (α × Bridge)
  | .done a => done (a, bridge)
  | .stdout text next => post (.stdout text) fun r => ofDialogue bridge (next (toHost r))
  | .stderr text next => post (.stderr text) fun r => ofDialogue bridge (next (toHost r))
  | .stdin prompt next =>
      post (bridge.request prompt) fun
        | .ok () => await bridge.advance bridge.nextRequest fun line bridge =>
            ofDialogue bridge (next line)
        | .error refusal =>
            ofDialogue bridge.advance (next (.error refusal.toHostError))

/-- Surroundings with states in `ε` that answer a worker at once, except that a wait for a line
may never end. -/
structure Surroundings (ε : Type) where
  post : Event → ε → Except Refusal Unit × ε
  await : Bridge → UInt64 → ε → Option ((Except HostError String × Bridge) × ε)
  openBuffer : String → Duration → ε → Except BufferError Unit × ε

/-- The result of a worker's work and the state that it leaves, if it ends. -/
def runIn {ε α : Type} (around : Surroundings ε) : Work α → ε → Option (α × ε)
  | done a, e => some (a, e)
  | post event next, e =>
      let (r, e) := around.post event e
      runIn around (next r) e
  | await bridge request next, e =>
      match around.await bridge request e with
      | none => none
      | some ((r, bridge), e) => runIn around (next r bridge) e
  | openBuffer url interval next, e =>
      let (r, e) := around.openBuffer url interval e
      runIn around (next r) e

end Work
end ScriptConsole
