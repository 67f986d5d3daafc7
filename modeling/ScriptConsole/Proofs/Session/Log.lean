import ScriptConsole.Session.Call

/-!
A session as its surroundings see it. A log notes in order the calls of a session and its
replies, its deeds with the answers that they got, what it heard of its workers and how it stood
whenever it rested or listened. The account of a log is what can be told of the session from the
notes alone.
-/

namespace ScriptConsole

/-- A deed of a session with the answer that it got. -/
inductive Done where
  | wrote (content : Content) (answer : Except BufferError Unit)
  | spawned (answer : Except TransportError Unit)
  | posted (worker : Nat) (command : Command) (answer : Except TransportError Unit)
  | terminated (worker : Nat)
  | discarded (worker : Nat)

/-- An entry in the log of a session and its workers. -/
inductive Note where
  | called (call : Session.Call)
  | did (done : Done)
  | heard (worker : Nat) (heard : Heard)
  | replied (result : Except SessionError Reply)
  /-- How the session stands when it rests or listens. -/
  | showed (session : Session)
  /-- A worker posted an event. -/
  | said (worker : Nat) (event : Event)
  /-- A request for input ended at the worker that made it. -/
  | ended (worker : Nat) (request : UInt64) (result : Except HostError String)

/-- The deeds that are left once the first one has been done. -/
inductive Deed.Goes {α : Type} : Deed α → Done → Deed α → Prop where
  | write {content : Content} {next : Except BufferError Unit → Deed α}
      (answer : Except BufferError Unit) :
      Goes (.write content next) (.wrote content answer) (next answer)
  | spawn {next : Except TransportError Unit → Deed α} (answer : Except TransportError Unit) :
      Goes (.spawn next) (.spawned answer) (next answer)
  | post {worker : Nat} {command : Command} {next : Except TransportError Unit → Deed α}
      (answer : Except TransportError Unit) :
      Goes (.post worker command next) (.posted worker command answer) (next answer)
  | terminate {worker : Nat} {next : Unit → Deed α} :
      Goes (.terminate worker next) (.terminated worker) (next ())
  | discard {worker : Nat} {next : Unit → Deed α} :
      Goes (.discard worker next) (.discarded worker) (next ())

/-- The call supplies the text as a line of input when it ends with this reply. -/
def Session.Call.Supplies : Session.Call → Reply → String → Prop
  | .line typed, .line (.input taken), text =>
      taken = text ∧ text = String.ofList (Text.dropLineEnd typed.toList)
  | .deliver given, .done, text => given = text
  | _, _, _ => False

/-- How a run has ended for which a worker gives this reply. -/
def RunOutcome.ofReply (success : Bool) (output error : Option String) : RunOutcome :=
  if success then .completed output else .failed (error.getD Session.unknownError)

/-- What the notes so far tell of a session. -/
structure Account where
  config : Config
  url : String
  /-- The call that has not been replied to. -/
  call : Option Session.Call
  /-- The request for input that was open when the last call came. -/
  meant : Option UInt64
  /-- The line that was written for a call which has not ended yet. -/
  delivered : Option String
  spawned : Nat
  /-- A worker that was spawned and neither told to boot nor let go of. -/
  unborn : Option Nat
  /-- The worker that the session holds. -/
  live : Option Nat
  /-- It has not said how booting ended. -/
  booting : Bool
  /-- It is no more. -/
  lost : Bool
  /-- The texts that it was told to run. -/
  runs : Nat
  /-- Its replies to them. -/
  replies : Nat
  /-- The requests for input that it made. -/
  asked : Nat
  /-- Those that were heard. -/
  requests : Nat
  /-- The request for input that is open. -/
  request : Option UInt64
  /-- The lines written so far. -/
  lines : Nat
  /-- What was last written. -/
  content : Option Content
  /-- The numbers of the lines that workers took, each with its worker. -/
  taken : List (Nat × UInt64)
  /-- The texts that workers were told to run. -/
  submits : Nat
  /-- How the last of them ended, unless it goes on. -/
  last : Option RunOutcome
  /-- The same as the session last showed it. -/
  shown : Option RunOutcome
  /-- How often an ended run was shown where none had been shown before. -/
  outcomes : Nat

namespace Account

def new (config : Config) (url : String) : Account where
  config := config
  url := url
  call := none
  meant := none
  delivered := none
  spawned := 0
  unborn := none
  live := none
  booting := false
  lost := false
  runs := 0
  replies := 0
  asked := 0
  requests := 0
  request := none
  lines := 0
  content := none
  taken := []
  submits := 0
  last := none
  shown := none
  outcomes := 0

def wrote (a : Account) (content : Content) : Account :=
  match content with
  | .line _ _ text =>
      { a with content, delivered := some text, request := none, lines := a.lines + 1 }
  | .empty | .closed => { a with content }

def posted (a : Account) (worker : Nat) : Command → Account
  | .init _ => { a with unborn := none, live := some worker, booting := true }
  | .run _ => { a with runs := a.runs + 1, submits := a.submits + 1, last := none }

/-- A run that goes on when the worker is let go has failed. -/
def release (a : Account) : Account :=
  let reason : TransportError := if a.lost then .disconnected else .terminated .run
  { a with
    live := none
    booting := false
    lost := false
    runs := 0
    replies := 0
    asked := 0
    requests := 0
    request := none
    last := if a.replies < a.runs then some (.failed reason.message) else a.last }

def did (a : Account) : Done → Account
  | .wrote content (.ok _) => a.wrote content
  | .spawned (.ok _) => { a with unborn := some a.spawned, spawned := a.spawned + 1 }
  | .posted worker command (.ok _) => a.posted worker command
  | .terminated _ => a.release
  | .discarded _ => { a with unborn := none }
  | _ => a

def heard (a : Account) : Heard → Account
  | .event (.init _ _) => { a with booting := false }
  | .event (.run success output error) =>
      { a with
        replies := a.replies + 1
        request := none
        last := some (.ofReply success output error) }
  | .event (.input request _) => { a with request := some request, requests := a.requests + 1 }
  | .gone => { a with lost := true }
  | _ => a

def said (a : Account) (worker : Nat) : Event → Account
  | .input _ _ => if a.live = some worker then { a with asked := a.asked + 1 } else a
  | _ => a

def ended (a : Account) (worker : Nat) (result : Except HostError String) : Account :=
  match result, a.content with
  | .ok _, some (.line _ sequence _) =>
      if a.live = some worker then { a with taken := (worker, sequence) :: a.taken } else a
  | _, _ => a

/-- What a worker says counts as a request of its own at most. -/
theorem said_eq (a : Account) (worker : Nat) (event : Event) :
    a.said worker event = { a with asked := (a.said worker event).asked } := by
  cases event with
  | input request prompt =>
      simp only [said]
      split <;> rfl
  | _ => rfl

theorem ended_eq (a : Account) (worker : Nat) (result : Except HostError String) :
    a.ended worker result = { a with taken := (a.ended worker result).taken } := by
  simp only [ended]
  split
  · split <;> rfl
  · rfl

def note (a : Account) : Note → Account
  | .called call => { a with call := some call, meant := a.request }
  | .did done => a.did done
  | .heard _ heard => a.heard heard
  | .replied _ => { a with call := none, delivered := none }
  | .showed session =>
      { a with
        shown := session.lastRun
        outcomes := a.outcomes + if a.shown = none ∧ session.lastRun ≠ none then 1 else 0 }
  | .said worker event => a.said worker event
  | .ended worker _ result => a.ended worker result

end Account

/-- The account of a session with this configuration and this buffer. -/
def account (config : Config) (url : String) (log : List Note) : Account :=
  log.foldl Account.note (.new config url)

@[simp]
theorem account_nil (config : Config) (url : String) :
    account config url [] = .new config url := rfl

@[simp]
theorem account_append (config : Config) (url : String) (log more : List Note) :
    account config url (log ++ more) = more.foldl Account.note (account config url log) := by
  simp only [account, List.foldl_append]

end ScriptConsole
