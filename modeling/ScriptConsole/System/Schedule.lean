import ScriptConsole.System.Basic

/-!
One order of the steps of a system. The session does its deeds first and hears what its worker
has said; then the workers go on as far as they can; time passes only when nothing else can
happen, and then up to the next instant at which something can.
-/

namespace ScriptConsole

namespace World

variable {σ : Type}

/-- The first worker that can do something. -/
def ready? (world : World σ) : Option Nat :=
  (List.range world.lanes.length).find? fun worker => (world.work worker).isSome

/-- Let the workers go on as far as they can, in at most `fuel` steps. -/
def workOn : Nat → World σ → World σ
  | 0, world => world
  | fuel + 1, world =>
      match world.ready? >>= world.work with
      | none => world
      | some world => workOn fuel world

/-- The instants at which sleeping workers go on. -/
def wakes (world : World σ) : List Nat :=
  world.lanes.filterMap Lane.wake?

/-- Let time pass up to the first of some instants. -/
def sleep? (world : World σ) (instants : List Nat) : Option Label :=
  instants.min?.map fun instant => .pass (instant - world.clock)

/-- The time to listen is over. -/
def isOver (world : World σ) : Until → Bool
  | .instant deadline => deadline ≤ world.clock
  | _ => false

/-- The next step while the session listens to a worker. -/
def next? (world : World σ) (worker : Nat) (stop : Until) : Option Label :=
  if world.isOver stop then some .quiet
  else if (world.event? worker).isSome then some .hear
  else
    match world.ready? with
    | some worker => some (.work worker)
    | none =>
        if world.isGone worker then some .gone
        else
          match stop with
          | .drained => some .quiet
          | .instant deadline => world.sleep? (deadline :: world.wakes)
          | .forever => world.sleep? world.wakes

/-- Listen to a worker: what is heard and the world after it, within `fuel` steps. -/
def receive (worker : Nat) (stop : Until) : Nat → World σ → Option (Heard × World σ)
  | 0, _ => none
  | fuel + 1, world =>
      match world.next? worker stop with
      | some .hear => (world.event? worker).map fun (event, world) => (.event event, world)
      | some .quiet => some (.quiet, world)
      | some .gone => some (.gone, world)
      | some (.work worker') => do receive worker stop fuel (← world.work worker')
      | some (.pass milliseconds) => receive worker stop fuel (world.pass milliseconds)
      | _ => none

end World

namespace System

variable {σ : Type}

/-- The next step of the system, unless it rests or nothing can happen any more. -/
def next? (system : System σ) : Option Label :=
  match system.activity with
  | .resting _ _ => none
  | .acting _ _ => some .deed
  | .listening session _ stop => do system.world.next? (← session.live) stop

/-- At most `fuel` steps in this order. -/
def settle : Nat → System σ → System σ
  | 0, system => system
  | fuel + 1, system =>
      match system.next? >>= system.step with
      | none => system
      | some system => settle fuel system

/-- The system after a call. -/
def perform (fuel : Nat) (call : Session.Call) (system : System σ) : System σ :=
  match system.step (.call call) with
  | none => system
  | some system => settle fuel system

/-- The session, unless it is in the middle of its deeds. -/
def session? (system : System σ) : Option Session :=
  match system.activity with
  | .resting session _ => some session
  | .listening session _ _ => some session
  | .acting _ _ => none

/-- The reply to the last call, once the session rests. -/
def reply? (system : System σ) : Option (Except SessionError Reply) :=
  match system.activity with
  | .resting _ last => last
  | _ => none

/-- Change a session that rests. -/
def update (system : System σ) (f : Session → Session) : System σ :=
  match system.activity with
  | .resting session last => { system with activity := .resting (f session) last }
  | _ => system

end System
end ScriptConsole
