import ScriptConsole.Console.Start

/-!
The program: the console on the standard streams. Time passes for the session as it does for the
user.
-/

namespace ScriptConsole.Program

/-- Enough steps for any single line of the user. -/
def fuel : Nat := 1000000000

/-- The variable of the environment that may name the configuration. -/
def configVariable : String := "SCRIPT_CONSOLE_CONFIG"

/-- Where the console believes to be. Files are loaded into it under the names that the user
gives. -/
def directory : Path := .ofString "/work"

/-- The files with the one that the user names, as far as there is one. -/
def load (files : Files) (name : String) : IO Files := do
  let path := (Path.ofString name).within directory
  try
    let bytes ← IO.FS.readBinFile name
    let files := files.makeDirectories path
    let files := (files.remove path).toOption.getD files
    return (files.write path bytes.toList).toOption.getD files
  catch error =>
    match error with
    | .inappropriateType .. => return files.makeDirectories path
    | _ => return files

def display (chunks : List Chunk) : IO Unit := do
  for chunk in chunks do
    match chunk with
    | .out text => IO.print text
    | .err text => IO.eprint text
  (← IO.getStdout).flush

/-- Show what was written since the last time. -/
def showNew (console : Console) : IO Console := do
  display console.output
  return { console with output := [] }

/-- The next line of the user, if there is one. -/
def nextLine : IO (Option (Except IoError String)) := do
  try
    let line ← (← IO.getStdin).getLine
    return (Text.streamLines (Text.toBytes line)).head?
  catch _ => return some (.error .notUtf8)

partial def converse (console : Console) (since : Nat) : IO Console := do
  let console ← showNew console.ask
  let line ← nextLine
  let now ← IO.monoMsNow
  match (console.pass fuel (now - since)).take fuel line with
  | (true, console) => converse console now
  | (false, console) => showNew console

/-- Write the frame of an event. -/
def post (event : Event) : IO (Except Refusal Unit) := do
  try
    IO.print (Event.format.encode event)
    (← IO.getStdout).flush
    return .ok ()
  catch error => return .error ⟨.io (.other (toString error)), false⟩

def readBuffer (buffer : FileBuffer) : IO (Except BufferError Content) := do
  try
    let bytes ← IO.FS.readBinFile buffer.path.text
    return match Text.ofBytes? bytes.toList with
      | some raw => .ok (Content.decode raw.toList)
      | none => .error (.io .notUtf8)
  catch error =>
    match error with
    | .noFileOrDirectory .. => return .ok .empty
    | _ => return .error (.io (.other (toString error)))

/-- Open a shared buffer. A missing file is made. -/
def openBuffer (url : String) (interval : Duration) : IO (Except BufferError FileBuffer) := do
  match Url.toPath url with
  | .error fault => return .error (.invalidUrl url fault.message)
  | .ok path =>
      try
        let _ ← IO.FS.Handle.mk path.text .append
        return .ok ((FileBuffer.mk path interval).withPollInterval interval)
      catch error => return .error (.io (.other (toString error)))

partial def await (buffer : Option FileBuffer) (wait : Bridge.Wait) :
    IO (Except HostError String × Bridge) := do
  let content ← match buffer with
    | none => pure (.ok .empty)
    | some buffer => readBuffer buffer
  match wait.step (← IO.monoMsNow) false content with
  | .ended result bridge => return (result, bridge)
  | .waiting wait' =>
      if wait' = wait then IO.sleep wait.bridge.slice.milliseconds.toUInt32
      await buffer wait'

/-- Do the work of a worker on the standard streams. -/
def perform {α : Type} (buffer : Option FileBuffer) : Work α → IO (α × Option FileBuffer)
  | .done result => return (result, buffer)
  | .post event next => do perform buffer (next (← post event))
  | .await bridge request next => do
      let (result, bridge) ← await buffer (bridge.await request (← IO.monoMsNow))
      perform buffer (next result bridge)
  | .openBuffer url interval next => do
      match ← openBuffer url interval with
      | .ok opened => perform (some opened) (next (.ok ()))
      | .error cause => perform buffer (next (.error cause))

partial def serve (worker : Worker Script.Scope) (buffer : Option FileBuffer) : IO UInt32 := do
  match ← nextLine with
  | none => return 0
  | some line =>
      match ← perform buffer (worker.serveLine line) with
      | (.ok worker, buffer) => serve worker buffer
      | (.error _, _) => return 1

def run (arguments : Arguments) : IO UInt32 := do
  if arguments.worker then
    serve (.new (Script.interpreter Script.defaultPackages) .byUrl) none
  else
    let names := arguments.config.toList ++ arguments.file.toList
    let files ← names.foldlM load { Files.empty.makeDirectories directory with directory }
    match Console.openWith fuel ⟨.ofString "/tmp", files⟩ arguments with
    | .error message =>
        let ended := Exit.failure message
        display ended.output
        return ended.code.toUInt32
    | .ok console =>
        let console ← converse console (← IO.monoMsNow)
        display (console.close fuel).output
        return 0

end ScriptConsole.Program

def main (line : List String) : IO UInt32 := do
  let environment ← IO.getEnv ScriptConsole.Program.configVariable
  match ScriptConsole.Arguments.ofCommandLine? environment line with
  | some arguments => ScriptConsole.Program.run arguments
  | none =>
      IO.eprintln "error: the command line is not understood"
      return 2
