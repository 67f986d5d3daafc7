import ScriptConsole.Wire.Command
import ScriptConsole.Worker.Work

/-!
Workers. A worker holds at most one interpreter; each command that it handles ends in exactly
one reply, also when the interpreter breaks down.
-/

namespace ScriptConsole

/-- An interpreter that has booted, and the bridge over which it gets its input. -/
structure Live (σ : Type) where
  state : σ
  bridge : Bridge

/-- Where a worker finds the shared buffer. -/
inductive BufferSource where
  /-- It is handed to the worker. -/
  | attached
  /-- The worker opens it by the URL that it is told. -/
  | byUrl
  deriving DecidableEq

structure Worker (σ : Type) where
  interpreter : Interpreter σ
  source : BufferSource
  live : Option (Live σ)

namespace Worker

variable {σ : Type}

def new (interpreter : Interpreter σ) (source : BufferSource) : Worker σ :=
  ⟨interpreter, source, none⟩

def isInitialized (worker : Worker σ) : Bool :=
  worker.live.isSome

/-- The time between two looks at the buffer. -/
def interval (setup : Setup) : Duration :=
  ⟨(setup.pollInterval.getD defaultPollIntervalMs).toNat⟩

def newBridge (setup : Setup) : Bridge :=
  .new (setup.inputTimeout.map fun ms => ⟨ms.toNat⟩) (interval setup)

/-- Open the shared buffer, if the worker has to. -/
def openBuffer (source : BufferSource) (setup : Setup) : Work (Except BufferError Unit) :=
  match source with
  | .attached => .done (.ok ())
  | .byUrl => .openBuffer setup.bufferUrl (interval setup) .done

/-- Boot an interpreter in place of the one that is there: what to reply, and the new one. -/
def boot (worker : Worker σ) (setup : Setup) : Work (Event × Option (Live σ)) := do
  match ← openBuffer worker.source setup with
  | .error cause => return (.initFailed cause.message, none)
  | .ok () =>
      match worker.interpreter.boot ⟨setup.baseUrl, setup.packages⟩ with
      | .ready state => return (.initOk, some ⟨state, newBridge setup⟩)
      | .refused reason => return (.initFailed reason, none)
      | .panicked message => return (.initFailed (panicReason message), none)

def notInitialized : String := "interpreter is not initialized"

/-- Load what a text imports and run it: what to reply, and the interpreter afterwards. One that
broke down is given up. -/
def runCode (worker : Worker σ) (code : String) : Work (Event × Option (Live σ)) :=
  match worker.live with
  | none => return (.runFailed notInitialized, none)
  | some live => do
      let ((ending, state), bridge) ←
        Work.ofDialogue live.bridge (worker.interpreter.loadAndRun code live.state)
      match ending with
      | .ok output => return (.runOk output, some ⟨state, bridge⟩)
      | .raised error => return (.runFailed error.text, some ⟨state, bridge⟩)
      | .panicked message => return (.runFailed (panicReason message), none)

/-- Handle a command. Only a reply that is not taken is a failure. -/
def handle (worker : Worker σ) (command : Command) :
    Work (Except TransportError Unit × Worker σ) := do
  let (event, live) ← match command with
    | .init setup => worker.boot setup
    | .run code => worker.runCode code
  match ← Work.send event with
  | .ok () => return (.ok (), { worker with live })
  | .error refusal => return (.error refusal.error, { worker with live })

end Worker
end ScriptConsole
