import ScriptConsole.Duration

/-!
What can go wrong, by the place where it happens: at the operating system, in the shared
buffer, on the link to a worker, in a host service that a script asks for, in a script, in the
configuration and in the session. Each cause has one text.
-/

namespace ScriptConsole

/-- A failure of the operating system or of a stream. -/
inductive IoError where
  | notFound
  | isDirectory
  | notDirectory
  | nameTooLong
  | notPermitted
  | nulInName
  | notUtf8
  | notAFile
  | busy
  | other (text : String)
  deriving DecidableEq

def IoError.message : IoError → String
  | notFound => "No such file or directory (os error 2)"
  | isDirectory => "Is a directory (os error 21)"
  | notDirectory => "Not a directory (os error 20)"
  | nameTooLong => "File name too long (os error 36)"
  | notPermitted => "Permission denied (os error 13)"
  | nulInName => "file name contained an unexpected NUL byte"
  | notUtf8 => "stream did not contain valid UTF-8"
  | notAFile => "not a file"
  | busy => "Device or resource busy (os error 16)"
  | other text => text

/-- A failure to read, write or open the shared input buffer. -/
inductive BufferError where
  | io (cause : IoError)
  | invalidUrl (url reason : String)
  deriving DecidableEq

def BufferError.message : BufferError → String
  | io cause => "shared buffer i/o failed: " ++ cause.message
  | invalidUrl url reason => "invalid shared buffer url '" ++ url ++ "': " ++ reason

/-- The kind of a request that a worker has not answered yet. -/
inductive Pending where
  | init
  | run
  deriving DecidableEq

def Pending.name : Pending → String
  | init => "init"
  | run => "run"

/-- A failure of the message link between the session and a worker. -/
inductive TransportError where
  | spawn (reason : String)
  | disconnected
  | terminated (pending : Pending)
  | io (cause : IoError)
  | malformed (reason : String)
  | unreachableBuffer (url : String)
  deriving DecidableEq

def TransportError.message : TransportError → String
  | spawn reason => "failed to spawn worker: " ++ reason
  | disconnected => "worker disconnected"
  | terminated pending =>
      "worker terminated while a " ++ pending.name ++ " request was pending"
  | io cause => "worker link i/o failed: " ++ cause.message
  | malformed reason => "malformed worker message: " ++ reason
  | unreachableBuffer url =>
      "shared buffer '" ++ url ++ "' is not reachable from an out-of-process worker"

/-- A failure of a service that a running script asks its host for. -/
inductive HostError where
  | disconnected
  | terminated
  | bufferClosed
  | inputTimeout (limit : Duration)
  | buffer (cause : BufferError)
  deriving DecidableEq

def HostError.message : HostError → String
  | disconnected => "controller disconnected"
  | terminated => "worker terminated"
  | bufferClosed => "input channel closed"
  | inputTimeout limit => "no input received within " ++ limit.text
  | buffer cause => cause.message

/-- An exception that a script did not catch. -/
structure ScriptError where
  kind : String
  message : String
  deriving DecidableEq

/-- The exception as a shell shows it. -/
def ScriptError.text (e : ScriptError) : String :=
  e.kind ++ ": " ++ e.message

/-- The kind of exception that a script sees when a host service fails. -/
def HostError.exceptionKind : HostError → String
  | inputTimeout _ => "TimeoutError"
  | bufferClosed => "EOFError"
  | disconnected | terminated => "SystemExit"
  | buffer _ => "OSError"

def HostError.toScriptError (e : HostError) : ScriptError :=
  ⟨e.exceptionKind, e.message⟩

/-- A failure of a session. A failure to boot carries its reason. -/
inductive SessionError where
  | boot (reason : String)
  | transport (cause : TransportError)
  | buffer (cause : BufferError)
  | runInFlight
  | initTimeout (limit : Duration)
  | notAwaitingInput
  | source (name : String) (cause : IoError)
  deriving DecidableEq

def bootMessage (reason : String) : String :=
  "interpreter failed to boot: " ++ reason

def SessionError.message : SessionError → String
  | boot reason => bootMessage reason
  | transport cause => cause.message
  | buffer cause => cause.message
  | runInFlight => "a statement is already running"
  | initTimeout limit => "worker did not finish initializing within " ++ limit.text
  | notAwaitingInput => "no runtime input request is pending"
  | source name cause => "failed to read source '" ++ name ++ "': " ++ cause.message

end ScriptConsole
