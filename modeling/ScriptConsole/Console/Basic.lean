import ScriptConsole.Console.Arguments
import ScriptConsole.Session.Call

/-!
The console: it asks the user for lines, hands them to a session and shows what the session
prints. At the start of a statement a line that begins with a colon is a command to the console
itself. This module says what the console does next; `Console.Run` does it.
-/

namespace ScriptConsole

/-- A piece of what the console writes. -/
inductive Chunk where
  | out (text : String)
  | err (text : String)
  deriving DecidableEq

namespace Chunk

def line (text : String) : Chunk :=
  out (text ++ "\n")

def errorLine (text : String) : Chunk :=
  err (text ++ "\n")

/-- How a mark of the session is shown. The user has seen what was typed. -/
def ofMark : Mark → List Chunk
  | .print ⟨.input, _⟩ => []
  | .print ⟨.error, text⟩ => [errorLine text]
  | .print ⟨_, text⟩ => [line text]
  | .clear => [out "\x1b[2J\x1b[H"]

/-- A failure of the console itself. -/
def failure (message : String) : Chunk :=
  errorLine ("error: " ++ message)

end Chunk

namespace Console

/-- A command to the console. -/
inductive Order where
  | quit
  | restart
  | clear
  | history
  | state
  | unknown (name : String)
  deriving DecidableEq

def Order.ofName (name : String) : Order :=
  if name = "quit" || name = "exit" || name = "q" then quit
  else if name = "restart" then restart
  else if name = "clear" then clear
  else if name = "history" then history
  else if name = "state" then state
  else unknown name

/-- A typed line would begin a statement. -/
def isAtTop (session : Session) : Bool :=
  !session.isAwaitingInput && session.statements.isEmpty

/-- What the user is asked with. -/
def prompt (session : Session) : String :=
  if session.isAwaitingInput then ""
  else if session.statements.isEmpty then ">>> "
  else "... "

/-- The command that a typed line is. -/
def order? (session : Session) (line : String) : Option Order :=
  match Text.trim line.toList with
  | ':' :: name => if isAtTop session then some (.ofName (String.ofList (Text.trim name))) else none
  | _ => none

/-- An entry of the history with its number, right-aligned in four columns. -/
def historyLine (number : Nat) (entry : String) : Chunk :=
  let digits := Text.decimal number
  .line (String.ofList (List.replicate (4 - digits.length) ' ' ++ digits) ++ "  " ++ entry)

def historyLines (history : History) : List Chunk :=
  (history.entries.zipIdx 1).map fun (entry, number) => historyLine number entry

def unknownOrder (name : String) : Chunk :=
  .errorLine ("unknown command ':" ++ name ++
    "' (try :restart, :clear, :history, :state, :quit)")

/-- What the console does next. -/
inductive Next where
  /-- Ask the user for a line. -/
  | ask
  /-- Call the session and, if that goes well, perhaps wait until nothing is pending or the script
  asks for a line. -/
  | call (call : Session.Call) (thenWait : Bool)
  | leave

/-- After a call. An error is shown. -/
def afterCall (session : Session) (thenWait : Bool) :
    Except SessionError Reply → Session × Next
  | .error error => (session.report error, .ask)
  | .ok _ => (session, if thenWait then .call (.wait none) false else .ask)

/-- Carry out a command: the session, what is written and what comes next. -/
def obey (session : Session) : Order → Session × List Chunk × Next
  | .quit => (session, [], .leave)
  | .restart => (session, [], .call .start false)
  | .clear => (session.clearConsole, [], .ask)
  | .history => (session, historyLines session.history, .ask)
  | .state => (session, [.line session.phase.name], .ask)
  | .unknown name => (session, [unknownOrder name], .ask)

/-- After the user has typed a line. -/
def afterLine (session : Session) (line : String) : Session × List Chunk × Next :=
  match order? session line with
  | some order => obey session order
  | none => (session, [], .call (.line line) true)

/-- After the user was asked for a line: there is one, there is none any more, or it cannot be
read. -/
def afterAsking (session : Session) : Option (Except IoError String) → Session × List Chunk × Next
  | none => (session, [], .leave)
  | some (.error cause) => (session, [.failure cause.message], .leave)
  | some (.ok line) => afterLine session line

end Console
end ScriptConsole
