import ScriptConsole.Session.Run

/-!
What the user types: statements, and answers to a script that waits for input. Before a line is
taken as an answer the session hears what the worker has said so far, since the request that the
line is meant for may have ended.
-/

namespace ScriptConsole.Session

/-- Write the answer to the open request. -/
def writeInput (session : Session) (text : String) (result : Reply) : Move :=
  match session.request with
  | none => session.fail .notAwaitingInput
  | some request => .write (.line request session.sequence text) fun
      | .error cause => session.fail (.buffer cause)
      | .ok () =>
          let answered :=
            { session with sequence := session.sequence + 1, request := none, prompt := none }
          (answered.print .input text).reply result

/-- Record a complete statement, show it and run it. -/
def runStatement (session : Session) (source : String) : Move :=
  let entry := String.ofList (Text.trim source.toList)
  let echo := String.ofList (Text.trimEnd source.toList)
  let recorded := { session with history := session.history.push entry }
  (recorded.print .input echo).submit source (.line (.statement source))

/-- Take a typed line. -/
def takeLine (session : Session) (text : String) : Move :=
  let (outcome, statements) := session.statements.push text
  let session := { session with statements }
  match outcome with
  | .statement source => session.runStatement source
  | .input line => session.writeInput line (.line outcome)
  | .ignored | .incomplete => session.reply (.line outcome)

/-- The request that a line is meant for is open. -/
def isOpen (session : Session) (request : Option UInt64) : Bool :=
  request.isSome && session.request == request

/-- Go on with what was to happen after listening. -/
def afterPoll (session : Session) : AfterPoll → Move
  | .reply => session.reply .done
  | .line request text =>
      if session.isOpen request then session.takeLine text else session.fail .notAwaitingInput
  | .deliver request text =>
      if session.isOpen request then
        { session with statements := session.statements.setAwaitingInput false }.writeInput text
          .done
      else session.fail .notAwaitingInput

/-- Hear what the worker has said so far. -/
def awaitSilence (session : Session) (next : AfterPoll) : Move :=
  match session.live with
  | none => session.afterPoll next
  | some _ => session.listen (.poll next)

/-- Take a line that the user typed, as an answer or as part of a statement. -/
def line (session : Session) (text : String) : Move :=
  if session.isAwaitingInput then session.awaitSilence (.line session.request text)
  else if session.isRunPending then session.fail .runInFlight
  else session.takeLine text

/-- Answer the open request for input. -/
def deliver (session : Session) (text : String) : Move :=
  if session.isAwaitingInput then session.awaitSilence (.deliver session.request text)
  else session.fail .notAwaitingInput

end ScriptConsole.Session
