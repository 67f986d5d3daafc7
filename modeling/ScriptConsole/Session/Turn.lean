import ScriptConsole.Session.Basic
import ScriptConsole.Wire.Event

/-!
How a session takes part in a conversation: it is called, does its deeds and then either replies
or listens to its worker. What it hears meanwhile leads to more deeds, until it replies.
-/

namespace ScriptConsole

/-- Why a wait for the worker ended. -/
inductive WaitOutcome where
  /-- No request is pending. -/
  | idle
  /-- The script waits for a line. -/
  | awaitingInput (prompt : Option String)
  | timedOut
  deriving DecidableEq

inductive Reply where
  | done
  | line (outcome : LineOutcome)
  | waited (outcome : WaitOutcome)
  /-- The session let go of its worker, which had not answered a request if there is an error. -/
  | tornDown (rejected : Option TransportError)
  deriving DecidableEq

/-- What is to happen when the worker has booted. -/
inductive AfterBoot where
  | reply
  /-- Run a text and then reply. -/
  | run (code : String) (reply : Reply)
  deriving DecidableEq

/-- What is to happen when all that the worker said so far was heard. -/
inductive AfterPoll where
  | reply
  /-- Take a typed line as the answer to a request for input. -/
  | line (request : Option UInt64) (text : String)
  /-- Answer a request for input. -/
  | deliver (request : Option UInt64) (text : String)
  deriving DecidableEq

/-- What a session listens for. -/
inductive Listening where
  | boot (next : AfterBoot)
  | wait (limit : Option Duration)
  | poll (next : AfterPoll)
  deriving DecidableEq

inductive Turn where
  | reply (result : Except SessionError Reply)
  | listen (listening : Listening)

/-- What a session hears: an event, silence for as long as it cares to listen, or that the worker
is no more. -/
inductive Heard where
  | event (event : Event)
  | quiet
  | gone
  deriving DecidableEq

/-- How long a session listens. -/
inductive Patience where
  /-- Until it has heard what is there. -/
  | none
  | upTo (limit : Duration)
  | unbounded
  deriving DecidableEq

def Patience.ofLimit : Option Duration → Patience
  | .none => .unbounded
  | .some limit => .upTo limit

def Session.patience (session : Session) : Listening → Patience
  | .boot _ => .ofLimit session.config.initTimeout
  | .wait limit => .ofLimit limit
  | .poll _ => .none

/-- The deeds up to the next reply or the next event. -/
abbrev Move : Type := Deed (Turn × Session)

namespace Session

def fail (session : Session) (error : SessionError) : Move :=
  return (.reply (.error error), session)

def reply (session : Session) (reply : Reply) : Move :=
  return (.reply (.ok reply), session)

/-- Listen to the worker, if there is one. -/
def listen (session : Session) (listening : Listening) : Move :=
  match session.live with
  | none => session.fail (.transport .disconnected)
  | some _ => return (.listen listening, session)

/-- Stop the worker, if there is one. -/
def letGo (session : Session) (reason : Pending → TransportError) : Deed Session :=
  match session.live with
  | none => return session.abandon reason
  | some worker => .terminate worker fun () => return session.abandon reason

end Session
end ScriptConsole
