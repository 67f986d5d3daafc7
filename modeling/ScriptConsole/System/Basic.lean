import ScriptConsole.Session.Call
import ScriptConsole.System.World

/-!
A session in its surroundings, as a system that moves in single steps: the deeds of the session,
the steps of its workers and the passing of time come in any order.
-/

namespace ScriptConsole

/-- How long a session listens on. -/
inductive Until where
  /-- Until it has heard what is there. -/
  | drained
  | instant (deadline : Nat)
  | forever
  deriving DecidableEq

def Patience.from (now : Nat) : Patience → Until
  | none => .drained
  | upTo limit => .instant (now + limit.milliseconds)
  | unbounded => .forever

/-- What a session is at. -/
inductive Activity where
  /-- It waits for a call; it may have replied to one before. -/
  | resting (session : Session) (last : Option (Except SessionError Reply))
  /-- It does its deeds. If it has listened in the meantime, it will listen on until then. -/
  | acting (move : Move) (kept : Option Until)
  | listening (session : Session) (listening : Listening) (stop : Until)

namespace Activity

/-- What a session is at that has these deeds to do. -/
def ofMove (now : Nat) (kept : Option Until) : Move → Activity
  | .done (.reply result, session) => resting session (some result)
  | .done (.listen l, session) => listening session l (kept.getD ((session.patience l).from now))
  | move => acting move kept

end Activity

structure System (σ : Type) where
  world : World σ
  activity : Activity

/-- One step of a system. -/
inductive Label where
  | call (call : Session.Call)
  /-- The session does its next deed. -/
  | deed
  /-- The session hears the next event of its worker. -/
  | hear
  /-- The session has listened long enough. -/
  | quiet
  /-- The session finds that its worker is no more. -/
  | gone
  | work (worker : Nat)
  | crash (worker : Nat)
  | pass (milliseconds : Nat)
  /-- The session cannot write the buffer for a while, or it can again. -/
  | jam (cause : Option IoError)

namespace System

variable {σ : Type}

def new (world : World σ) (config : Config) : System σ :=
  ⟨world, .resting (.new config world.buffer.url) none⟩

/-- The session goes on with its deeds. -/
def act (system : System σ) (kept : Option Until) (move : Move) : System σ :=
  { system with activity := .ofMove system.world.clock kept move }

/-- The session hears something. -/
def tell (system : System σ) (session : Session) (listening : Listening) (stop : Until)
    (heard : Heard) : System σ :=
  system.act (some stop) (session.hear listening heard)

/-- The time to listen is not over. -/
def mayHear (system : System σ) : Until → Bool
  | .instant deadline => system.world.clock ≤ deadline
  | _ => true

/-- A session that listens to a worker may stop. -/
def mayStop (system : System σ) (worker : Nat) : Until → Bool
  | .drained => system.world.isQuiet worker
  | .instant deadline => deadline ≤ system.world.clock
  | .forever => false

/-- The system after a step, if the step can be taken. -/
def step (system : System σ) : Label → Option (System σ)
  | .call call =>
      match system.activity with
      | .resting session _ => some (system.act none (session.call call))
      | _ => none
  | .deed =>
      match system.activity with
      | .acting move kept => do
          let (move, world) ← move.step? World.host system.world
          return { system with world }.act kept move
      | _ => none
  | .hear =>
      match system.activity with
      | .listening session listening stop => do
          let (event, world) ← system.world.event? (← session.live)
          if system.mayHear stop then
            return { system with world }.tell session listening stop (.event event)
          else none
      | _ => none
  | .quiet =>
      match system.activity with
      | .listening session listening stop => do
          if system.mayStop (← session.live) stop then
            return system.tell session listening stop .quiet
          else none
      | _ => none
  | .gone =>
      match system.activity with
      | .listening session listening stop => do
          if system.world.isGone (← session.live) && system.mayHear stop then
            return system.tell session listening stop .gone
          else none
      | _ => none
  | .work worker => do return { system with world := ← system.world.work worker }
  | .crash worker => some { system with world := system.world.crash worker }
  | .pass milliseconds => some { system with world := system.world.pass milliseconds }
  | .jam cause => some { system with world := { system.world with jam := cause } }

/-- The system after a sequence of steps, if each of them can be taken. -/
def steps (system : System σ) : List Label → Option (System σ)
  | [] => some system
  | label :: labels => do (← system.step label).steps labels

end System
end ScriptConsole
