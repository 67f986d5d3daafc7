import ScriptConsole.Console.Run
import ScriptConsole.Source
import ScriptConsole.Worker.Stream

/-!
Starting the console: from the command line to the first prompt, and a whole conversation with
all its lines at hand.
-/

namespace ScriptConsole

/-- Where the console is started. -/
structure Place where
  /-- The directory for files of the moment. -/
  temporary : Path
  files : Files

/-- How the console ends. -/
structure Exit where
  code : Nat
  output : List Chunk

namespace Exit

/-- The console could not start. -/
def failure (message : String) : Exit :=
  ⟨1, [.failure message]⟩

/-- What was written to the standard output. -/
def out (ended : Exit) : String :=
  String.join (ended.output.map fun
    | .out text => text
    | .err _ => "")

/-- What was written to the standard error. -/
def err (ended : Exit) : String :=
  String.join (ended.output.map fun
    | .out _ => ""
    | .err text => text)

end Exit

namespace Console

def readText (place : Place) (path : String) : Except IoError String :=
  place.files.readText (.ofString path)

/-- The configuration that the arguments ask for. -/
def config (place : Place) (arguments : Arguments) : Except ConfigError Config := do
  let config ← match arguments.config with
    | none => pure .default
    | some path => Config.ofFile path (readText place path)
  return arguments.configure config

/-- The name of the buffer in memory. -/
def memoryName : String := "console"

/-- The surroundings of the session that the arguments ask for. -/
def world (place : Place) (arguments : Arguments) (config : Config) :
    Except BufferError (World Script.Scope) :=
  let interpreter := Script.interpreter Script.defaultPackages
  if arguments.process then do
    let (buffer, _, files) ← FileBuffer.temporary place.temporary place.files
    return .new interpreter .piped (.file (buffer.withPollInterval config.pollInterval)) files
  else return .new interpreter .direct (.memory memoryName) place.files

/-- The call that runs the program at a path, under the name that it was given. -/
def runProgram (place : Place) (path : String) : Session.Call :=
  let source := Source.file (.ofString path)
  .runSource source.name (source.current place.files)

/-- What the console does at first: run the program that is named, or boot a worker. -/
def first (place : Place) (arguments : Arguments) (config : Config) : Except String Next :=
  match arguments.file with
  | none => .ok (.call .start false)
  | some path =>
      if config.isRunnable path then .ok (.call (runProgram place path) true)
      else .error (path ++ " is not a runnable file")

/-- The console before its first prompt, or why it does not get there. -/
def openWith (fuel : Nat) (place : Place) (arguments : Arguments) : Except String Console := do
  let config ← (config place arguments).mapError ConfigError.message
  let world ← (world place arguments config).mapError BufferError.message
  let next ← first place arguments config
  return (follow fuel next (new (.new world config))).2

/-- Serve a session in another process whose messages are at hand. -/
def serve (place : Place) (input : List UInt8) : Exit :=
  let interpreter := Script.interpreter Script.defaultPackages
  match (Stream.new none place.files).serve interpreter input with
  | some (result, stream) =>
      let text := String.ofList (Text.displayBytes stream.outlet.written)
      ⟨if result.isOk then 0 else 1, [.out text]⟩
  | none => ⟨1, []⟩

/-- A conversation with all lines of the user at hand. -/
def run (fuel : Nat) (place : Place) (arguments : Arguments) (input : List UInt8) : Exit :=
  if arguments.worker then serve place input
  else
    match openWith fuel place arguments with
    | .error message => .failure message
    | .ok console => ⟨0, ((console.converse fuel (Text.streamLines input)).close fuel).output⟩

end Console
end ScriptConsole
