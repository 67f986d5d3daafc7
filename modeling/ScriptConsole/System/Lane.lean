import ScriptConsole.Buffer.Shared
import ScriptConsole.Worker.Serve

/-!
A worker between its two queues: the commands that it has not taken yet and the events that the
session has not heard yet. It moves in single steps, each of which takes a command, posts one
event, opens the shared buffer or looks at it once.
-/

namespace ScriptConsole

/-- How messages travel between a session and its workers. -/
inductive Channel where
  /-- As they are, within the process. -/
  | direct
  /-- As frames, to another process and back. -/
  | piped
  deriving DecidableEq

namespace Channel

/-- What arrives of a message. -/
def carry {α : Type} (format : Wire.Format α) (message : α) : Channel → List α
  | direct => [message]
  | piped => Wire.messages format (Text.streamLines (Text.toBytes (format.encode message)))

/-- Where the worker at the other end finds the shared buffer. -/
def source : Channel → BufferSource
  | direct => .attached
  | piped => .byUrl

end Channel

/-- What a worker is at. -/
inductive Task (σ : Type) where
  | idle (worker : Worker σ)
  | busy (work : Work (Except TransportError Unit × Worker σ))
  /-- It waits for a line. -/
  | waiting (wait : Bridge.Wait)
      (next : Except HostError String → Bridge → Work (Except TransportError Unit × Worker σ))
  | ended

structure Lane (σ : Type) where
  task : Task σ
  /-- The file that the worker opened as its shared buffer. -/
  file : Option FileBuffer
  inbox : List Command
  outbox : List Event
  /-- The worker has been told to stop. -/
  stopped : Bool

namespace Lane

variable {σ : Type}

def new (worker : Worker σ) : Lane σ :=
  ⟨.idle worker, none, [], [], false⟩

def isEnded (lane : Lane σ) : Bool :=
  match lane.task with
  | .ended => true
  | _ => false

/-- Give a command to the worker, if it is still there to take it. -/
def post (channel : Channel) (command : Command) (lane : Lane σ) :
    Except TransportError Unit × Lane σ :=
  if lane.stopped || lane.isEnded then (.error .disconnected, lane)
  else (.ok (), { lane with inbox := lane.inbox ++ channel.carry Command.format command })

/-- Tell the worker to stop. Another process ends at once. -/
def stop (channel : Channel) (lane : Lane σ) : Lane σ :=
  match channel with
  | .direct => { lane with stopped := true }
  | .piped => { lane with stopped := true, task := .ended }

/-- What the worker's shared buffer holds. -/
def read (lane : Lane σ) (buffer : SharedBuffer) (storage : Storage) :
    Except BufferError Content :=
  match lane.file with
  | none => buffer.read storage
  | some file => file.read storage.files

/-- The instant up to which a worker sleeps that finds nothing in the shared buffer. -/
def wake? (lane : Lane σ) : Option Nat :=
  match lane.task with
  | .waiting ⟨_, _, _, .reading deadline⟩ _ => some deadline
  | _ => none

/-- A worker that has nothing to do takes the next command, unless it is to stop. -/
def takeCommand (lane : Lane σ) (worker : Worker σ) : Option (Lane σ) :=
  if lane.stopped then some { lane with task := .ended }
  else
    match lane.inbox with
    | [] => none
    | command :: inbox => some { lane with inbox, task := .busy (worker.handle command) }

/-- Post an event. One that is told to stop is not heard any more. -/
def postEvent (channel : Channel) (lane : Lane σ) (event : Event) :
    Except Refusal Unit × Lane σ :=
  if lane.stopped then (.error ⟨.disconnected, true⟩, lane)
  else (.ok (), { lane with outbox := lane.outbox ++ channel.carry Event.format event })

/-- Wait on, or go on with what was read; `none` if the worker sleeps. -/
def lookOn (lane : Lane σ) (wait : Bridge.Wait)
    (next : Except HostError String → Bridge → Work (Except TransportError Unit × Worker σ)) :
    Bridge.Progress → Option (Lane σ)
  | .ended result bridge => some { lane with task := .busy (next result bridge) }
  | .waiting wait' =>
      if wait' = wait then none else some { lane with task := .waiting wait' next }

/-- One step of the worker at an instant; `none` if there is nothing that it can do. -/
def step (channel : Channel) (buffer : SharedBuffer) (now : Nat) (lane : Lane σ)
    (storage : Storage) : Option (Lane σ × Storage) :=
  match lane.task with
  | .ended => none
  | .idle worker => (lane.takeCommand worker).map (·, storage)
  | .busy (.done (.ok (), worker)) => some ({ lane with task := .idle worker }, storage)
  | .busy (.done (.error _, _)) => some ({ lane with task := .ended }, storage)
  | .busy (.post event next) =>
      let (r, lane) := lane.postEvent channel event
      some ({ lane with task := .busy (next r) }, storage)
  | .busy (.await bridge request next) =>
      some ({ lane with task := .waiting (bridge.await request now) next }, storage)
  | .busy (.openBuffer url interval next) =>
      match FileBuffer.ofUrl url storage.files with
      | .error cause => some ({ lane with task := .busy (next (.error cause)) }, storage)
      | .ok (file, files) =>
          some ({ lane with
              file := some (file.withPollInterval interval)
              task := .busy (next (.ok ())) },
            { storage with files })
  | .waiting wait next =>
      (lane.lookOn wait next (wait.step now lane.stopped (lane.read buffer storage))).map
        (·, storage)

end Lane
end ScriptConsole
