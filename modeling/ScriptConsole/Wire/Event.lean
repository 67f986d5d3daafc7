import ScriptConsole.Wire.Format

/-!
What a worker tells the session: how booting or running ended, and what a running script writes
or asks for.
-/

namespace ScriptConsole

inductive Event where
  | init (success : Bool) (error : Option String)
  | run (success : Bool) (output error : Option String)
  | stdout (text : String)
  | stderr (text : String)
  /-- A script waits for a line; only a line with this request's number answers it. -/
  | input (request : UInt64) (text : Option String)
  deriving DecidableEq

namespace Event

def initOk : Event := init true none

def initFailed (reason : String) : Event := init false (some reason)

def runOk (output : Option String) : Event := run true output none

def runFailed (error : String) : Event := run false none (some error)

def action : Event → String
  | init _ _ => "init"
  | run _ _ _ => "run"
  | stdout _ => "stdout"
  | stderr _ => "stderr"
  | input _ _ => "input"

/-- A field that is left out when there is no text. -/
def textField (name : String) : Option String → List (String × Json)
  | none => []
  | some text => [(name, .str text)]

def write : Event → Json
  | init success error => .object
      ([("action", .str "init"), ("success", .bool success)] ++ textField "error" error)
  | run success output error => .object
      ([("action", .str "run"), ("success", .bool success)] ++ textField "output" output ++
        textField "error" error)
  | stdout text => .object [("action", .str "stdout"), ("text", .str text)]
  | stderr text => .object [("action", .str "stderr"), ("text", .str text)]
  | input request text => .object
      ([("action", .str "input"), ("request", .ofNat request.toNat)] ++ textField "text" text)

def optionalText : Option Json → Option (Option String) :=
  Json.defaulted none (Json.toOption? Json.toText?)

def readInit? (body : Json.Body) : Option Event := do
  match ← body.arrange? ["success", "error"] with
  | [success, error] =>
      return .init (← Json.required Json.toBool? success) (← optionalText error)
  | _ => none

def readRun? (body : Json.Body) : Option Event := do
  match ← body.arrange? ["success", "output", "error"] with
  | [success, output, error] =>
      return .run (← Json.required Json.toBool? success) (← optionalText output)
        (← optionalText error)
  | _ => none

def readText? (body : Json.Body) : Option String := do
  match ← body.arrange? ["text"] with
  | [text] => Json.required Json.toText? text
  | _ => none

def readInput? (body : Json.Body) : Option Event := do
  match ← body.arrange? ["request", "text"] with
  | [request, text] =>
      return .input (← Json.required Json.toUInt64? request) (← optionalText text)
  | _ => none

def read? (j : Json) : Option Event := do
  let (tag, body) ← j.tagged? "action"
  if tag = "init" then readInit? body
  else if tag = "run" then readRun? body
  else if tag = "stdout" then return .stdout (← readText? body)
  else if tag = "stderr" then return .stderr (← readText? body)
  else if tag = "input" then readInput? body
  else none

def format : Wire.Format Event :=
  ⟨write, read?⟩

end Event
end ScriptConsole
