import ScriptConsole.Buffer.Shared
import ScriptConsole.Session.Call

/-!
A stage for a session: workers that are played by a fixed plan. What a worker says is given by
the commands that it is sent; between the calls of the session it may be told to say more.
-/

namespace ScriptConsole.Rehearsal

/-- One thing that a played worker does. -/
inductive Cue where
  | emit (event : Event)
  /-- Fall silent for good. -/
  | exit
  /-- Do not take the command, as a worker that is gone. -/
  | refuse
  /-- Do not take the command, for this reason. -/
  | fail (cause : IoError)

/-- What a played worker does and when. -/
inductive Plan where
  /-- By the kind of the command and, of runs, by how many there were before. -/
  | byKind (onInit : List Cue) (onRun : List (List Cue))
  /-- By how many commands there were before. -/
  | inOrder (atOnce : List Cue) (onCommand : List (List Cue))

/-- A worker that a session is given. -/
structure Part where
  /-- Why a session is not given the worker, among these files. -/
  obstacle : Files → Option String
  plan : Plan

namespace Part

/-- A worker that boots and then says nothing. -/
def silent : Part :=
  ⟨fun _ => none, .byKind [.emit .initOk] []⟩

end Part

/-- A worker on the stage. -/
structure Actor where
  plan : Plan
  /-- The commands that it was sent. -/
  sent : List Command
  /-- What it said that the session has not heard. -/
  queue : List Event
  isPresent : Bool
  /-- The session has not let go of it. -/
  isHeld : Bool

namespace Actor

def isRun : Command → Bool
  | .run _ => true
  | .init _ => false

/-- What the plan says for a command. -/
def cues (actor : Actor) (command : Command) : List Cue :=
  match actor.plan, command with
  | .byKind onInit _, .init _ => onInit
  | .byKind _ onRun, .run _ => onRun[(actor.sent.filter isRun).length]?.getD []
  | .inOrder _ onCommand, _ => onCommand[actor.sent.length]?.getD []

def perform (result : Except TransportError Unit) (actor : Actor) :
    List Cue → Except TransportError Unit × Actor
  | [] => (result, actor)
  | .emit event :: cues =>
      let queue := if actor.isPresent then actor.queue ++ [event] else actor.queue
      perform result { actor with queue } cues
  | .exit :: cues => perform result { actor with isPresent := false } cues
  | .refuse :: cues => perform (.error .disconnected) actor cues
  | .fail cause :: cues => perform (.error (.io cause)) actor cues

def enter (plan : Plan) : Actor :=
  let actor : Actor := ⟨plan, [], [], true, true⟩
  match plan with
  | .byKind _ _ => actor
  | .inOrder atOnce _ => (perform (.ok ()) actor atOnce).2

def send (actor : Actor) (command : Command) : Except TransportError Unit × Actor :=
  perform (.ok ()) { actor with sent := actor.sent ++ [command] } (actor.cues command)

end Actor

structure Stage where
  /-- The workers to be spawned; the last one is spawned again and again. -/
  parts : List Part
  tried : Nat
  terminations : Nat
  actors : List Actor
  /-- All commands that were sent. -/
  posted : List Command
  buffer : SharedBuffer
  storage : Storage
  /-- What keeps the session from writing the buffer at the moment. -/
  jam : Option IoError
  /-- Workers are other processes. -/
  isPiped : Bool

namespace Stage

def new (parts : List Part) (buffer : SharedBuffer) (files : Files) (isPiped : Bool) : Stage :=
  ⟨parts, 0, 0, [], [], buffer, ⟨.empty, files⟩, none, isPiped⟩

def write (content : Content) (stage : Stage) : Except BufferError Unit × Stage :=
  match stage.jam with
  | some cause => (.error (.io cause), stage)
  | none =>
      match stage.buffer.write content stage.storage with
      | .error cause => (.error cause, stage)
      | .ok storage => (.ok (), { stage with storage })

def nextPart (stage : Stage) : Part :=
  (stage.parts[stage.tried]?.or stage.parts.getLast?).getD .silent

def spawn (stage : Stage) : Except TransportError Unit × Stage :=
  let part := stage.nextPart
  let stage := { stage with tried := stage.tried + 1 }
  if stage.isPiped && !stage.buffer.isReachable then
    (.error (.unreachableBuffer stage.buffer.url), stage)
  else
    match part.obstacle stage.storage.files with
    | some reason => (.error (.spawn reason), stage)
    | none => (.ok (), { stage with actors := stage.actors ++ [.enter part.plan] })

def post (worker : Nat) (command : Command) (stage : Stage) :
    Except TransportError Unit × Stage :=
  let stage := { stage with posted := stage.posted ++ [command] }
  match stage.actors[worker]? with
  | none => (.error .disconnected, stage)
  | some actor =>
      let (result, actor) := actor.send command
      (result, { stage with actors := stage.actors.set worker actor })

def discard (worker : Nat) (stage : Stage) : Stage :=
  { stage with actors := stage.actors.modify worker fun a => { a with isHeld := false } }

def terminate (worker : Nat) (stage : Stage) : Stage :=
  { stage.discard worker with terminations := stage.terminations + 1 }

def host : Deed.Host Stage :=
  ⟨write, spawn, post, terminate, discard⟩

/-- The worker that was spawned last says something: whether there is one to say it and a session
to hear it. -/
def emit (event : Event) (stage : Stage) : Bool × Stage :=
  match stage.actors.getLast? with
  | none => (false, stage)
  | some actor =>
      if actor.isPresent && actor.isHeld then
        let actor := { actor with queue := actor.queue ++ [event] }
        (true, { stage with actors := stage.actors.set (stage.actors.length - 1) actor })
      else (false, stage)

/-- The worker that was spawned last falls silent for good. -/
def exit (stage : Stage) : Stage :=
  { stage with
    actors := stage.actors.modify (stage.actors.length - 1) fun a => { a with isPresent := false } }

/-- What a session hears that listens to a worker; `none` if it listens for ever. -/
def heard? (stage : Stage) (worker : Nat) (patience : Patience) : Option (Heard × Stage) :=
  if patience = .upTo ⟨0⟩ then some (.quiet, stage)
  else
    match stage.actors[worker]? with
    | none => some (.gone, stage)
    | some actor =>
        match actor.queue with
        | event :: queue =>
            some (.event event, { stage with actors := stage.actors.set worker { actor with queue } })
        | [] =>
            if !actor.isPresent then some (.gone, stage)
            else if patience = .unbounded then none
            else some (.quiet, stage)

/-- Let a session hear what is said until it replies, but at most `fuel` times. -/
def attend : Nat → Session → Listening → Stage → Option ((Except SessionError Reply × Session) × Stage)
  | 0, _, _, _ => none
  | fuel + 1, session, listening, stage => do
      let (heard, stage) ← stage.heard? (← session.live) (session.patience listening)
      match (session.hear listening heard).runIn host stage with
      | ((.reply result, session), stage) => return ((result, session), stage)
      | ((.listen listening, session), stage) => attend fuel session listening stage

/-- How many events were said and not heard. -/
def unheard (stage : Stage) : Nat :=
  (stage.actors.map (·.queue.length)).foldl (· + ·) 0

/-- Do the deeds of a session and let it hear what is said until it replies. -/
def play (move : Move) (stage : Stage) :
    Option ((Except SessionError Reply × Session) × Stage) :=
  match move.runIn host stage with
  | ((.reply result, session), stage) => some ((result, session), stage)
  | ((.listen listening, session), stage) => attend (stage.unheard + 1) session listening stage

end Stage
end ScriptConsole.Rehearsal
