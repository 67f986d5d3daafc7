import ScriptConsole.Config
import ScriptConsole.History
import ScriptConsole.Session.Deed
import ScriptConsole.Statement
import ScriptConsole.Transcript

/-!
The session of one user: at most one worker, at most one request that it has not answered, the
request for input that is open, and what was typed and shown so far.
-/

namespace ScriptConsole

inductive Phase where
  | uninitialized
  /-- A worker was spawned and has not said yet how booting ended. -/
  | initializing
  | ready
  deriving DecidableEq

def Phase.name : Phase → String
  | uninitialized => "UNINITIALIZED"
  | initializing => "INITIALIZING"
  | ready => "READY"

/-- How a run ended. -/
inductive RunOutcome where
  | completed (output : Option String)
  | failed (error : String)
  deriving DecidableEq

structure Session where
  config : Config
  bufferUrl : String
  phase : Phase
  /-- The number of the worker that the session holds. -/
  live : Option Nat
  /-- How many workers were spawned. -/
  spawned : Nat
  /-- The request that the worker has not answered. -/
  pending : Option Pending
  bootError : Option String
  /-- How the last run ended, unless it goes on. -/
  lastRun : Option RunOutcome
  prompt : Option String
  /-- The request for input that is open. -/
  request : Option UInt64
  /-- A request for input has not been reported yet. -/
  announce : Bool
  /-- The number of the next line of input. -/
  sequence : UInt64
  statements : StatementBuffer
  history : History
  transcript : Transcript

namespace Session

def new (config : Config) (bufferUrl : String) : Session where
  config := config
  bufferUrl := bufferUrl
  phase := .uninitialized
  live := none
  spawned := 0
  pending := none
  bootError := none
  lastRun := none
  prompt := none
  request := none
  announce := false
  sequence := 0
  statements := .empty
  history := .empty
  transcript := .empty

def isRunPending (session : Session) : Bool :=
  session.pending == some .run

def isAwaitingInput (session : Session) : Bool :=
  session.statements.awaitingInput

def print (session : Session) (kind : EntryKind) (text : String) : Session :=
  { session with transcript := session.transcript.print kind text }

/-- Print a text unless it is missing or empty. -/
def printSome (session : Session) (kind : EntryKind) : Option String → Session
  | none => session
  | some text => if text = "" then session else session.print kind text

/-- Show a failure that a call ended with. -/
def report (session : Session) (error : SessionError) : Session :=
  session.print .error error.message

def clearConsole (session : Session) : Session :=
  { session with transcript := session.transcript.clear }

/-- The next line typed is part of a statement, and no request for input is open. -/
def closeRequest (session : Session) : Session :=
  { session with
    statements := session.statements.setAwaitingInput false
    request := none
    prompt := none }

/-- The session without its worker. A run that was pending has failed for `reason`. -/
def abandon (session : Session) (reason : Pending → TransportError) : Session :=
  let left := { session.closeRequest with live := none, phase := .uninitialized, pending := none }
  if session.pending = some .run then
    { left with lastRun := some (.failed (reason .run).message) }
  else left

end Session
end ScriptConsole
