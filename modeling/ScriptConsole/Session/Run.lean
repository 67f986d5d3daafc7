import ScriptConsole.Session.Turn

/-!
Starting a worker and running texts on it.
-/

namespace ScriptConsole.Session

/-- The reason of a failure that the worker gave none for. -/
def unknownError : String := "unknown error"

/-- Have the worker run a text. A worker that cannot be reached is let go. -/
def postRun (session : Session) (code : String) (result : Reply) : Move :=
  match session.live with
  | none => session.fail (.transport .disconnected)
  | some worker => .post worker (.run code) fun
      | .error cause => do
          (← session.letGo fun _ => .disconnected).fail (.transport cause)
      | .ok () => { session with pending := some .run, lastRun := none }.reply result

/-- Go on with what was to happen after booting. -/
def afterBoot (session : Session) : AfterBoot → Move
  | .reply => session.reply .done
  | .run code result => session.postRun code result

/-- Listen until the worker has said how booting ended. -/
def awaitBoot (session : Session) (next : AfterBoot) : Move :=
  if session.pending = some .init then session.listen (.boot next)
  else if session.phase = .ready then session.afterBoot next
  else session.fail (.boot (session.bootError.getD "worker did not report a reason"))

/-- The session with the worker that it has just told to boot. -/
def booting (session : Session) (worker : Nat) : Session :=
  { session with live := some worker, phase := .initializing, pending := some .init }

/-- Spawn a worker and have it boot. -/
def spawn (session : Session) (next : AfterBoot) : Move :=
  .spawn fun
    | .error cause => session.fail (.transport cause)
    | .ok () =>
        let worker := session.spawned
        let session := { session with spawned := worker + 1 }
        .post worker (.boot session.config session.bufferUrl) fun
          | .error cause => .discard worker fun () => session.fail (.transport cause)
          | .ok () => (session.booting worker).awaitBoot next

/-- Show that a request which was pending has been given up. -/
def printRejection (session : Session) : Option Pending → Session
  | none => session
  | some pending => session.print .error (TransportError.terminated pending).message

/-- Boot a new worker in place of the one that is there. Nothing that was written for the old
worker is left when the new one is spawned. -/
def launch (session : Session) (next : AfterBoot) : Move := do
  let left ← session.letGo .terminated
  let fresh := { left.printRejection session.pending with bootError := none }
  .write .empty fun
    | .error cause => fresh.fail (.buffer cause)
    | .ok () => fresh.spawn next

/-- Run a text, on a new worker if none is ready. -/
def submit (session : Session) (code : String) (result : Reply) : Move :=
  if session.isRunPending then session.fail .runInFlight
  else if session.phase = .ready then session.postRun code result
  else session.launch (.run code result)

/-- What is shown before a whole program is run. -/
def initializing : String := "initializing"

/-- Run a whole program on a new worker and on an empty console. -/
def runSource (session : Session) (name : String) : Except IoError String → Move
  | .error cause => session.fail (.source name cause)
  | .ok code =>
      let cleared := { session.clearConsole with statements := .empty }
      (cleared.print .info initializing).launch (.run code .done)

/-- Let go of the worker, and of whoever waits for the shared buffer. -/
def teardown (session : Session) : Move := do
  let left ← session.letGo .terminated
  .write .closed fun _ => left.reply (.tornDown (session.pending.map .terminated))

end ScriptConsole.Session
