import ScriptConsole.Session.Input

/-!
The calls of a session and what it does with what it hears.
-/

namespace ScriptConsole

namespace Session

/-- Listen until no request is pending or the script waits for a line that was not announced
before. -/
def awaitQuiet (session : Session) (limit : Option Duration) : Move :=
  if session.announce && session.isAwaitingInput then
    { session with announce := false }.reply (.waited (.awaitingInput session.prompt))
  else if session.pending = none then session.reply (.waited .idle)
  else session.listen (.wait limit)

/-- The worker has said how booting ended; it is let go if that failed. -/
def takeBoot (session : Session) (success : Bool) (error : Option String) : Deed Session :=
  if session.pending = some .init then
    if success then return { session with pending := none, phase := .ready }
    else
      { session with
        pending := none
        bootError := some (error.getD unknownError) }.letGo .terminated
  else return session

/-- The worker has said how the run ended. -/
def takeRun (session : Session) (success : Bool) (output error : Option String) : Session :=
  if session.isRunPending then
    let ended := { session.closeRequest with pending := none }
    if success then
      { ended.printSome .output output with lastRun := some (.completed output) }
    else
      let error := error.getD unknownError
      { ended.print .error error with lastRun := some (.failed error) }
  else session

/-- A request for input is open from now on. -/
def openRequest (session : Session) (request : UInt64) (prompt : Option String) : Session :=
  { session.printSome .output prompt with
    statements := session.statements.setAwaitingInput true
    request := some request
    announce := true
    prompt := prompt }

/-- Take an event of the worker. Replies that nothing waits for are passed over, and no line that
was written before a request for input is left to answer it. -/
def take (session : Session) : Event → Deed Session
  | .init success error => session.takeBoot success error
  | .run success output error => return session.takeRun success output error
  | .stdout text => return session.print .output text
  | .stderr text => return session.print .error text
  | .input request prompt => .write .empty fun _ => return session.openRequest request prompt

/-- Listen on, unless what was listened for is there. -/
def resume (session : Session) : Listening → Move
  | .boot next => session.awaitBoot next
  | .wait limit => session.awaitQuiet limit
  | .poll next => session.awaitSilence next

/-- Nothing more was heard in time. -/
def expire (session : Session) : Listening → Move
  | .boot _ => do
      let limit := session.config.initTimeout.getD ⟨0⟩
      (← session.letGo .terminated).fail (.initTimeout limit)
  | .wait _ => session.reply (.waited .timedOut)
  | .poll next => session.afterPoll next

/-- What a session does with what it hears. -/
def hear (session : Session) (listening : Listening) : Heard → Move
  | .event event => do (← session.take event).resume listening
  | .quiet => session.expire listening
  | .gone => do
      (← session.letGo fun _ => .disconnected).fail (.transport .disconnected)

/-- What the user of a session can ask of it. -/
inductive Call where
  /-- Boot a new worker. -/
  | start
  | submit (code : String)
  | line (text : String)
  | deliver (text : String)
  | poll
  | wait (limit : Option Duration)
  | runSource (name : String) (text : Except IoError String)
  | teardown

def call (session : Session) : Call → Move
  | .start => session.launch .reply
  | .submit code => session.submit code .done
  | .line text => session.line text
  | .deliver text => session.deliver text
  | .poll => session.awaitSilence .reply
  | .wait limit => session.awaitQuiet limit
  | .runSource name text => session.runSource name text
  | .teardown => session.teardown

end Session
end ScriptConsole
