import ScriptConsole.Worker.Stream

/-!
Surroundings that record the events of a worker. They may take only so many events, and they may
count the worker as stopped after so many.
-/

namespace ScriptConsole.Rehearsal

structure Recorder where
  /-- The events that were taken. -/
  events : List Event
  postLimit : Option Nat
  stopAfter : Option Nat
  supply : Supply
  files : Files
  /-- The shared buffer that the worker opened; it reads the supply until then. -/
  file : Option FileBuffer

namespace Recorder

def new (postLimit stopAfter : Option Nat) (supply : Supply) (files : Files) : Recorder :=
  ⟨[], postLimit, stopAfter, supply, files, none⟩

/-- As many events were taken as a limit says. -/
def reached (recorder : Recorder) : Option Nat → Bool
  | none => false
  | some limit => limit ≤ recorder.events.length

/-- The worker counts as stopped. -/
def isStopped (recorder : Recorder) : Bool :=
  recorder.reached recorder.stopAfter

def post (event : Event) (recorder : Recorder) : Except Refusal Unit × Recorder :=
  if recorder.reached recorder.postLimit then
    (.error ⟨.disconnected, recorder.isStopped⟩, recorder)
  else (.ok (), { recorder with events := recorder.events ++ [event] })

def openBuffer (url : String) (interval : Duration) (recorder : Recorder) :
    Except BufferError Unit × Recorder :=
  match FileBuffer.ofUrl url recorder.files with
  | .error cause => (.error cause, recorder)
  | .ok (file, files) =>
      (.ok (), { recorder with files, file := some (file.withPollInterval interval) })

/-- Wait for a line, of a worker that counts as stopped or not. -/
def awaitAs (recorder : Recorder) (stopped : Bool) (bridge : Bridge) (request : UInt64) :
    Option ((Except HostError String × Bridge) × Recorder) :=
  match recorder.file with
  | none => (recorder.supply.await stopped bridge request).map fun r =>
      (r.1, { recorder with supply := r.2 })
  | some file => ((Supply.still (file.read recorder.files)).await stopped bridge request).map
      fun r => (r.1, recorder)

def await (bridge : Bridge) (request : UInt64) (recorder : Recorder) :
    Option ((Except HostError String × Bridge) × Recorder) :=
  recorder.awaitAs recorder.isStopped bridge request

def around : Work.Surroundings Recorder :=
  ⟨post, await, openBuffer⟩

/-- Ask for a line and wait for it. -/
def requestLine (bridge : Bridge) (prompt : Option String) (recorder : Recorder) :
    Option ((Except HostError String × Bridge) × Recorder) :=
  (Work.ofDialogue bridge (.stdin prompt .done)).runIn around recorder

/-- Handle commands until the worker is stopped or a reply is not taken. -/
def handleAll {σ : Type} : List Command → Worker σ → Recorder → Option (Worker σ × Recorder)
  | [], worker, recorder => some (worker, recorder)
  | command :: commands, worker, recorder =>
      if recorder.isStopped then some (worker, recorder)
      else
        match (worker.handle command).runIn around recorder with
        | none => none
        | some ((.ok (), worker), recorder) => handleAll commands worker recorder
        | some ((.error _, worker), recorder) => some (worker, recorder)

end Recorder
end ScriptConsole.Rehearsal
