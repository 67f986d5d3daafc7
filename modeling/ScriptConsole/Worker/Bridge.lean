import ScriptConsole.Buffer.Content
import ScriptConsole.Error
import ScriptConsole.Wire.Event

/-!
How a worker waits for a line of input. Each request has a number of its own; the worker looks
at the shared buffer in slices of time until a line with that number appears, and between two
slices it looks whether it has been stopped and whether its time is up. Lines for other requests
are passed over.
-/

namespace ScriptConsole

structure Bridge where
  nextRequest : UInt64
  /-- The number of the last line that was taken or passed over. -/
  lastSequence : Option UInt64
  /-- How long one request may take. -/
  timeout : Option Duration
  /-- How long one read of the buffer may take. -/
  slice : Duration
  deriving DecidableEq

namespace Bridge

def new (timeout : Option Duration) (slice : Duration) : Bridge :=
  ⟨0, none, timeout, ⟨max slice.milliseconds 1⟩⟩

/-- The prompt that a request carries; an empty one is none. -/
def prompt : Option String → Option String
  | none => none
  | some text => if text = "" then none else some text

/-- The event of the next request. -/
def request (bridge : Bridge) (text : Option String) : Event :=
  .input bridge.nextRequest (prompt text)

/-- The bridge after a request. -/
def advance (bridge : Bridge) : Bridge :=
  { bridge with nextRequest := bridge.nextRequest + 1 }

/-- How long the next read may take, `elapsed` milliseconds after the request; `none` if its
time is up. -/
def allowance (bridge : Bridge) (elapsed : Nat) : Option Duration :=
  match bridge.timeout with
  | none => some bridge.slice
  | some limit =>
      if limit.milliseconds ≤ elapsed then none
      else some ⟨min bridge.slice.milliseconds (limit.milliseconds - elapsed)⟩

/-- What a waiting worker does next. -/
inductive Stage where
  /-- See whether it is to go on. -/
  | checking
  /-- Read the buffer up to an instant. -/
  | reading (deadline : Nat)
  deriving DecidableEq

/-- A worker that waits for the line with a number, since an instant. -/
structure Wait where
  bridge : Bridge
  request : UInt64
  since : Nat
  stage : Stage
  deriving DecidableEq

/-- The wait goes on, or it has ended with a line or a failure. -/
inductive Progress where
  | waiting (wait : Wait)
  | ended (result : Except HostError String) (bridge : Bridge)

namespace Wait

/-- The stage between two reads. -/
def check (wait : Wait) (now : Nat) (terminated : Bool) : Progress :=
  if terminated then .ended (.error .terminated) wait.bridge
  else
    match wait.bridge.allowance (now - wait.since) with
    | some slice => .waiting { wait with stage := .reading (now + slice.milliseconds) }
    | none => .ended (.error (.inputTimeout (wait.bridge.timeout.getD ⟨0⟩))) wait.bridge

/-- A read that found something newer than the last line. -/
def receive (wait : Wait) : Content → Progress
  | .line request sequence text =>
      let bridge := { wait.bridge with lastSequence := some sequence }
      if request = wait.request then .ended (.ok text) bridge
      else .waiting { wait with bridge, stage := .checking }
  | .closed => .ended (.error .bufferClosed) wait.bridge
  | .empty => .waiting { wait with stage := .checking }

/-- One look at the buffer in a read that may last until `deadline`. -/
def look (wait : Wait) (deadline now : Nat) (content : Except BufferError Content) : Progress :=
  match content with
  | .error cause => .ended (.error (.buffer cause)) wait.bridge
  | .ok content =>
      if content.isNewerThan wait.bridge.lastSequence then wait.receive content
      else if deadline ≤ now then .waiting { wait with stage := .checking }
      else .waiting wait

/-- One step of a wait: see whether to go on, or look at the buffer. -/
def step (wait : Wait) (now : Nat) (terminated : Bool) (content : Except BufferError Content) :
    Progress :=
  match wait.stage with
  | .checking => wait.check now terminated
  | .reading deadline => wait.look deadline now content

end Wait

/-- The wait for the line that answers a request, from its start on. -/
def await (bridge : Bridge) (request : UInt64) (now : Nat) : Wait :=
  ⟨bridge, request, now, .checking⟩

end Bridge
end ScriptConsole
