import ScriptConsole.Worker.Bridge

/-!
A shared buffer that nobody writes while a worker waits, and the wait on such a buffer. Time
passes only where the worker sleeps.
-/

namespace ScriptConsole

/-- What successive looks at a buffer find: the upcoming contents first, and then the last one
again and again. -/
structure Supply where
  upcoming : List (Except BufferError Content)
  last : Except BufferError Content

namespace Supply

/-- The buffer holds the same all the time. -/
def still (content : Except BufferError Content) : Supply :=
  ⟨[], content⟩

def read (supply : Supply) : Except BufferError Content × Supply :=
  match supply.upcoming with
  | [] => (supply.last, supply)
  | content :: upcoming => (content, { supply with upcoming })

/-- When a worker that found nothing looks again: in a millisecond, or at the end of its read if
nothing changes before. -/
def nextLook (supply : Supply) (now deadline : Nat) : Nat :=
  if supply.upcoming.isEmpty then deadline else min (now + 1) deadline

/-- At most `fuel` steps of a wait: how it ended, and the supply that it left. -/
def run (terminated : Bool) :
    Nat → Nat → Bridge.Wait → Supply → Option ((Except HostError String × Bridge) × Supply)
  | 0, _, _, _ => none
  | fuel + 1, now, wait, supply =>
      match wait.stage with
      | .checking =>
          match wait.check now terminated with
          | .ended result bridge => some ((result, bridge), supply)
          | .waiting wait => run terminated fuel now wait supply
      | .reading deadline =>
          let (content, supply) := supply.read
          match wait.look deadline now content with
          | .ended result bridge => some ((result, bridge), supply)
          | .waiting wait' =>
              let now := if wait' = wait then supply.nextLook now deadline else now
              run terminated fuel now wait' supply

/-- Enough steps for a wait that ends. -/
def fuel (supply : Supply) (bridge : Bridge) : Nat :=
  4 * (supply.upcoming.length + (bridge.timeout.getD ⟨0⟩).milliseconds + 4)

/-- Wait for the line that answers a request; `none` if the wait does not end. -/
def await (supply : Supply) (terminated : Bool) (bridge : Bridge) (request : UInt64) :
    Option ((Except HostError String × Bridge) × Supply) :=
  run terminated (supply.fuel bridge) 0 (bridge.await request 0) supply

end Supply
end ScriptConsole
