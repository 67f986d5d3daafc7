import ScriptConsole.Buffer.Content
import ScriptConsole.Wire.Command

/-!
What a session does to its surroundings, as a tree of single deeds with the answers that each
may get: it writes the shared buffer, and it spawns, addresses and lets go of workers, which it
numbers in the order in which they are spawned.
-/

namespace ScriptConsole

inductive Deed (α : Type) where
  | done (result : α)
  | write (content : Content) (next : Except BufferError Unit → Deed α)
  /-- Spawn the worker with the next number. -/
  | spawn (next : Except TransportError Unit → Deed α)
  | post (worker : Nat) (command : Command) (next : Except TransportError Unit → Deed α)
  /-- Stop a worker for good and let go of it. -/
  | terminate (worker : Nat) (next : Unit → Deed α)
  /-- Let go of a worker that never got to work. -/
  | discard (worker : Nat) (next : Unit → Deed α)

namespace Deed

def bind {α β : Type} : Deed α → (α → Deed β) → Deed β
  | done a, f => f a
  | write content next, f => write content fun r => (next r).bind f
  | spawn next, f => spawn fun r => (next r).bind f
  | post worker command next, f => post worker command fun r => (next r).bind f
  | terminate worker next, f => terminate worker fun r => (next r).bind f
  | discard worker next, f => discard worker fun r => (next r).bind f

instance : Monad Deed where
  pure := done
  bind := bind

@[simp]
theorem done_bind {α β : Type} (a : α) (f : α → Deed β) : (done a).bind f = f a := rfl

@[simp]
theorem bind_done {α : Type} (d : Deed α) : d.bind done = d := by
  induction d with
  | done a => rfl
  | write content next ih => exact congrArg (write content) (funext ih)
  | spawn next ih => exact congrArg spawn (funext ih)
  | post worker command next ih => exact congrArg (post worker command) (funext ih)
  | terminate worker next ih => exact congrArg (terminate worker) (funext ih)
  | discard worker next ih => exact congrArg (discard worker) (funext ih)

theorem bind_assoc {α β γ : Type} (d : Deed α) (f : α → Deed β) (g : β → Deed γ) :
    (d.bind f).bind g = d.bind fun a => (f a).bind g := by
  induction d with
  | done a => rfl
  | write content next ih => exact congrArg (write content) (funext ih)
  | spawn next ih => exact congrArg spawn (funext ih)
  | post worker command next ih => exact congrArg (post worker command) (funext ih)
  | terminate worker next ih => exact congrArg (terminate worker) (funext ih)
  | discard worker next ih => exact congrArg (discard worker) (funext ih)

instance : LawfulMonad Deed :=
  LawfulMonad.mk' Deed bind_done done_bind bind_assoc

/-- Surroundings with states in `ω`, by their answer to each deed. -/
structure Host (ω : Type) where
  write : Content → ω → Except BufferError Unit × ω
  spawn : ω → Except TransportError Unit × ω
  post : Nat → Command → ω → Except TransportError Unit × ω
  terminate : Nat → ω → ω
  discard : Nat → ω → ω

/-- The first deed, done by a host; `none` if there is none to do. -/
def step? {ω α : Type} (host : Host ω) : Deed α → ω → Option (Deed α × ω)
  | done _, _ => none
  | write content next, w =>
      let (r, w) := host.write content w
      some (next r, w)
  | spawn next, w =>
      let (r, w) := host.spawn w
      some (next r, w)
  | post worker command next, w =>
      let (r, w) := host.post worker command w
      some (next r, w)
  | terminate worker next, w => some (next (), host.terminate worker w)
  | discard worker next, w => some (next (), host.discard worker w)

/-- All deeds, done by a host without a pause. -/
def runIn {ω α : Type} (host : Host ω) : Deed α → ω → α × ω
  | done a, w => (a, w)
  | write content next, w =>
      let (r, w) := host.write content w
      runIn host (next r) w
  | spawn next, w =>
      let (r, w) := host.spawn w
      runIn host (next r) w
  | post worker command next, w =>
      let (r, w) := host.post worker command w
      runIn host (next r) w
  | terminate worker next, w => runIn host (next ()) (host.terminate worker w)
  | discard worker next, w => runIn host (next ()) (host.discard worker w)

end Deed
end ScriptConsole
