import ScriptConsole.Error
import ScriptConsole.Json.Record

/-!
The configuration of a session. A configuration file names only what differs from the defaults;
a time limit that is null is no limit.
-/

namespace ScriptConsole

structure Config where
  baseUrl : String
  packages : List String
  initTimeoutMs : Option UInt64
  inputTimeoutMs : Option UInt64
  pollIntervalMs : UInt64
  runnableExtensions : List String
  deriving DecidableEq

/-- The time between two looks at a shared buffer unless another is given. -/
def defaultPollIntervalMs : UInt64 := 25

namespace Config

def default : Config :=
  ⟨"", [], some 30000, none, defaultPollIntervalMs, ["py"]⟩

def milliseconds (n : UInt64) : Duration :=
  ⟨n.toNat⟩

def initTimeout (config : Config) : Option Duration :=
  config.initTimeoutMs.map milliseconds

def inputTimeout (config : Config) : Option Duration :=
  config.inputTimeoutMs.map milliseconds

/-- At least a millisecond. -/
def pollInterval (config : Config) : Duration :=
  ⟨max config.pollIntervalMs.toNat 1⟩

def withBaseUrl (config : Config) (url : String) : Config :=
  { config with baseUrl := url }

def withPackage (config : Config) (name : String) : Config :=
  { config with packages := config.packages ++ [name] }

def withInitTimeout (config : Config) (ms : UInt64) : Config :=
  { config with initTimeoutMs := some ms }

def withInputTimeout (config : Config) (ms : UInt64) : Config :=
  { config with inputTimeoutMs := some ms }

/-- Looks are at least a millisecond apart. -/
def withPollInterval (config : Config) (ms : UInt64) : Config :=
  { config with pollIntervalMs := if ms = 0 then 1 else ms }

def withRunnableExtensions (config : Config) (extensions : List String) : Config :=
  { config with runnableExtensions := extensions }

/-- The last part of a path that is neither empty nor the directory itself. -/
def lastPart? (path : List Char) : Option (List Char) :=
  ((path.splitOn '/').filter fun part => part != [] && part != ['.']).getLast?

/-- What follows the last point of a file name, unless the name begins with that point. -/
def extension? (path : List Char) : Option (List Char) := do
  let name ← lastPart? path
  if name = ['.', '.'] then none
  else
    match name.reverse.dropWhile (· != '.') with
    | [] | [_] => none
    | _ => some (name.reverse.takeWhile (· != '.')).reverse

/-- A file of this name may be run as a whole. -/
def isRunnable (config : Config) (name : String) : Bool :=
  match extension? name.toList with
  | none => false
  | some extension => config.runnableExtensions.contains (String.ofList extension)

def fields : List String :=
  ["base_url", "packages", "init_timeout_ms", "input_timeout_ms", "poll_interval_ms",
    "runnable_extensions"]

def write (config : Config) : Json :=
  let limit : Option UInt64 → Json := .ofOption fun n => .ofNat n.toNat
  .object
    [("base_url", .str config.baseUrl),
      ("packages", .ofTexts config.packages),
      ("init_timeout_ms", limit config.initTimeoutMs),
      ("input_timeout_ms", limit config.inputTimeoutMs),
      ("poll_interval_ms", .ofNat config.pollIntervalMs.toNat),
      ("runnable_extensions", .ofTexts config.runnableExtensions)]

/-- The configuration with the fields of `body` in place of the defaults. -/
def ofBody? (body : Json.Body) : Option Config := do
  match ← body.arrange? fields with
  | [base, packages, init, input, poll, extensions] =>
      return {
        baseUrl := ← Json.defaulted default.baseUrl Json.toText? base
        packages := ← Json.defaulted default.packages Json.toTexts? packages
        initTimeoutMs := ←
          Json.defaulted default.initTimeoutMs (Json.toOption? Json.toUInt64?) init
        inputTimeoutMs := ←
          Json.defaulted default.inputTimeoutMs (Json.toOption? Json.toUInt64?) input
        pollIntervalMs := ← Json.defaulted default.pollIntervalMs Json.toUInt64? poll
        runnableExtensions := ←
          Json.defaulted default.runnableExtensions Json.toTexts? extensions }
  | _ => none

/-- The value of a field that is not known is only passed over. -/
def rulesFor (name : String) : Json.Rules :=
  if fields.contains name then .strict else .lenient

/-- The fields of a configuration text. -/
def readBody (text : List Char) : Except Json.Fault Json.Body :=
  match Json.skip text with
  | ⟨[], _⟩ => .error ⟨.endInValue, []⟩
  | ⟨c :: rest, _⟩ =>
      if c = '\x7b' then
        match Json.readFields .strict rulesFor rest with
        | .error fault => .error fault
        | .ok (fields, ⟨rest, _⟩) => Json.atEnd (.named fields) rest
      else if c = '[' then
        match Json.readItems .strict rest with
        | .error fault => .error fault
        | .ok (items, ⟨rest, _⟩) => Json.atEnd (.ordered items) rest
      else .error ⟨.mismatch, c :: rest⟩

def read (text : List Char) : Except Json.Fault Config :=
  match readBody text with
  | .error fault => .error fault
  | .ok body =>
      match ofBody? body with
      | some config => .ok config
      | none => .error ⟨.mismatch, []⟩

end Config

/-- Why a configuration file could not be loaded. -/
inductive ConfigError where
  | read (path : String) (cause : IoError)
  | parse (path reason : String)
  deriving DecidableEq

def ConfigError.message : ConfigError → String
  | read path cause => "failed to read config " ++ path ++ ": " ++ cause.message
  | parse path reason => "invalid config " ++ path ++ ": " ++ reason

/-- The configuration in the file at `path`, of which the text is known or could not be
read. -/
def Config.ofFile (path : String) (text : Except IoError String) : Except ConfigError Config :=
  match text with
  | .error cause => .error (.read path cause)
  | .ok text =>
      match Config.read text.toList with
      | .ok config => .ok config
      | .error fault => .error (.parse path (fault.message text.toList))

end ScriptConsole
