import ScriptConsole.Config
import ScriptConsole.Text.Decimal

/-!
What the console is told on its command line.
-/

namespace ScriptConsole

structure Arguments where
  /-- A program to run before the user is asked for anything. -/
  file : Option String
  /-- Serve a session in another process. -/
  worker : Bool
  /-- Have the worker in another process. -/
  process : Bool
  config : Option String
  inputTimeout : Option UInt64
  /-- Packages to load at the start. -/
  packages : List String
  deriving DecidableEq

namespace Arguments

def none : Arguments :=
  ⟨.none, false, false, .none, .none, []⟩

inductive Flag where
  | worker
  | process
  | config
  | inputTimeout
  | package
  deriving DecidableEq

def flags : List (String × Flag) :=
  [("--worker", .worker), ("--process", .process), ("--config", .config),
    ("--input-timeout-ms", .inputTimeout), ("--package", .package)]

/-- An argument that names an option and may hold its value behind an equals sign. -/
def splitValue (argument : String) : String × Option String :=
  match argument.toList.dropWhile (· != '=') with
  | [] => (argument, .none)
  | _ :: value =>
      (String.ofList (argument.toList.takeWhile (· != '=')), some (String.ofList value))

/-- A number of milliseconds. -/
def milliseconds? (text : String) : Option UInt64 := do
  let digits := match text.toList with
    | '+' :: digits => digits
    | digits => digits
  let n ← Text.readDecimal? digits
  if n < UInt64.size then some (UInt64.ofNat n) else .none

/-- Take the one file that may be named. -/
def withFile (arguments : Arguments) (file : String) : Option Arguments :=
  if arguments.file.isNone then some { arguments with file := some file } else .none

/-- Take an option that has no value. It may be given once. -/
def withSwitch (arguments : Arguments) : Flag → Option Arguments
  | .worker => if arguments.worker then .none else some { arguments with worker := true }
  | .process => if arguments.process then .none else some { arguments with process := true }
  | _ => .none

/-- Take an option with its value. Only packages may be given more than once. -/
def withValue (arguments : Arguments) (value : String) : Flag → Option Arguments
  | .config =>
      if arguments.config.isSome || value = "" then .none
      else some { arguments with config := some value }
  | .inputTimeout => do
      if arguments.inputTimeout.isSome then .none
      else return { arguments with inputTimeout := some (← milliseconds? value) }
  | .package => some { arguments with packages := arguments.packages ++ [value] }
  | _ => .none

/-- An argument that looks like an option. -/
def isOption (argument : String) : Bool :=
  match argument.toList with
  | '-' :: _ :: _ => true
  | _ => false

/-- The arguments in order; `none` for a command line that says nothing. -/
def read (arguments : Arguments) : List String → Option Arguments
  | [] => some arguments
  | "--" :: files => files.foldlM withFile arguments
  | argument :: rest =>
      if isOption argument then
        match splitValue argument with
        | (name, value) =>
            match flags.lookup name, value, rest with
            | .none, _, _ => .none
            | some flag, some value, rest => do (← arguments.withValue value flag).read rest
            | some flag, .none, rest =>
                if flag = .worker || flag = .process then do
                  (← arguments.withSwitch flag).read rest
                else
                  match rest with
                  | [] => .none
                  | value :: rest =>
                      if isOption value then .none
                      else do (← arguments.withValue value flag).read rest
      else do (← arguments.withFile argument).read rest

/-- The arguments of a command line. Without an option for it, the configuration may be named by
the environment. -/
def ofCommandLine? (environment : Option String) (line : List String) : Option Arguments := do
  let arguments ← Arguments.none.read line
  return { arguments with config := arguments.config.or environment }

/-- A configuration with what the command line says besides. -/
def configure (arguments : Arguments) (config : Config) : Config :=
  let config := match arguments.inputTimeout with
    | .none => config
    | some limit => config.withInputTimeout limit
  arguments.packages.foldl Config.withPackage config

end Arguments
end ScriptConsole
