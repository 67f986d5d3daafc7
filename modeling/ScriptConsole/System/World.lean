import ScriptConsole.Session.Deed
import ScriptConsole.System.Lane

/-!
The surroundings of a session: the workers that it has spawned, the shared buffer and the time.
-/

namespace ScriptConsole

structure World (σ : Type) where
  interpreter : Interpreter σ
  channel : Channel
  buffer : SharedBuffer
  storage : Storage
  /-- What keeps the session from writing the buffer at the moment. -/
  jam : Option IoError
  /-- The workers by their numbers. -/
  lanes : List (Lane σ)
  clock : Nat

namespace World

variable {σ : Type}

def new (interpreter : Interpreter σ) (channel : Channel) (buffer : SharedBuffer)
    (files : Files) : World σ :=
  ⟨interpreter, channel, buffer, ⟨.empty, files⟩, none, [], 0⟩

def write (content : Content) (world : World σ) : Except BufferError Unit × World σ :=
  match world.jam with
  | some cause => (.error (.io cause), world)
  | none =>
      match world.buffer.write content world.storage with
      | .error cause => (.error cause, world)
      | .ok storage => (.ok (), { world with storage })

/-- Spawn a worker. One in another process has to reach the buffer. -/
def spawn (world : World σ) : Except TransportError Unit × World σ :=
  if world.channel = .piped ∧ ¬ world.buffer.isReachable then
    (.error (.unreachableBuffer world.buffer.url), world)
  else
    let lane := Lane.new (Worker.new world.interpreter world.channel.source)
    (.ok (), { world with lanes := world.lanes ++ [lane] })

def post (worker : Nat) (command : Command) (world : World σ) :
    Except TransportError Unit × World σ :=
  match world.lanes[worker]? with
  | none => (.error .disconnected, world)
  | some lane =>
      let (r, lane) := lane.post world.channel command
      (r, { world with lanes := world.lanes.set worker lane })

def terminate (worker : Nat) (world : World σ) : World σ :=
  { world with lanes := world.lanes.modify worker (Lane.stop world.channel) }

/-- The surroundings as they answer the deeds of a session. To let go of a worker is to stop
it. -/
def host : Deed.Host (World σ) :=
  ⟨write, spawn, post, terminate, terminate⟩

/-- What the shared buffer holds. -/
def content (world : World σ) : Except BufferError Content :=
  world.buffer.read world.storage

/-- One step of a worker; `none` if there is nothing that it can do. -/
def work (world : World σ) (worker : Nat) : Option (World σ) := do
  let lane ← world.lanes[worker]?
  let (lane, storage) ← lane.step world.channel world.buffer world.clock world.storage
  return { world with lanes := world.lanes.set worker lane, storage }

/-- The next event of a worker that the session has not heard. -/
def event? (world : World σ) (worker : Nat) : Option (Event × World σ) := do
  let lane ← world.lanes[worker]?
  match lane.outbox with
  | [] => none
  | event :: outbox =>
      return (event, { world with lanes := world.lanes.set worker { lane with outbox } })

/-- A worker has ended and all that it said was heard. -/
def isGone (world : World σ) (worker : Nat) : Bool :=
  match world.lanes[worker]? with
  | none => true
  | some lane => lane.isEnded && lane.outbox.isEmpty

/-- A worker goes on, but all that it has said was heard. -/
def isQuiet (world : World σ) (worker : Nat) : Bool :=
  match world.lanes[worker]? with
  | none => false
  | some lane => !lane.isEnded && lane.outbox.isEmpty

/-- A worker breaks off in the middle of what it is at. -/
def crash (world : World σ) (worker : Nat) : World σ :=
  { world with lanes := world.lanes.modify worker fun lane => { lane with task := .ended } }

def pass (world : World σ) (milliseconds : Nat) : World σ :=
  { world with clock := world.clock + milliseconds }

end World
end ScriptConsole
