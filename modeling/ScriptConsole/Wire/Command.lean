import ScriptConsole.Config
import ScriptConsole.Wire.Format

/-!
What the session asks of a worker: to boot an interpreter, or to run a text.
-/

namespace ScriptConsole

/-- What a worker is told when it boots its interpreter. -/
structure Setup where
  baseUrl : String
  bufferUrl : String
  packages : List String
  inputTimeout : Option UInt64
  pollInterval : Option UInt64
  deriving DecidableEq

inductive Command where
  | init (setup : Setup)
  | run (code : String)
  deriving DecidableEq

namespace Command

/-- The command that boots an interpreter for a session. -/
def boot (config : Config) (bufferUrl : String) : Command :=
  init ⟨config.baseUrl, bufferUrl, config.packages, config.inputTimeoutMs,
    some config.pollIntervalMs⟩

def action : Command → String
  | init _ => "init"
  | run _ => "run"

def write : Command → Json
  | init setup => .object
      [("action", .str "init"),
        ("baseUrl", .str setup.baseUrl),
        ("sharedBufferUrl", .str setup.bufferUrl),
        ("packages", .ofTexts setup.packages),
        ("inputTimeoutMs", .ofOption (fun n => .ofNat n.toNat) setup.inputTimeout),
        ("pollIntervalMs", .ofOption (fun n => .ofNat n.toNat) setup.pollInterval)]
  | run code => .object [("action", .str "run"), ("code", .str code)]

def setupFields : List String :=
  ["baseUrl", "sharedBufferUrl", "packages", "inputTimeoutMs", "pollIntervalMs"]

def readSetup? (body : Json.Body) : Option Setup := do
  match ← body.arrange? setupFields with
  | [base, url, packages, timeout, poll] =>
      return {
        baseUrl := ← Json.required Json.toText? base
        bufferUrl := ← Json.required Json.toText? url
        packages := ← Json.defaulted [] Json.toTexts? packages
        inputTimeout := ← Json.defaulted none (Json.toOption? Json.toUInt64?) timeout
        pollInterval := ← Json.defaulted none (Json.toOption? Json.toUInt64?) poll }
  | _ => none

def readCode? (body : Json.Body) : Option String := do
  match ← body.arrange? ["code"] with
  | [code] => Json.required Json.toText? code
  | _ => none

def read? (j : Json) : Option Command := do
  let (tag, body) ← j.tagged? "action"
  if tag = "init" then return .init (← readSetup? body)
  else if tag = "run" then return .run (← readCode? body)
  else none

def format : Wire.Format Command :=
  ⟨write, read?⟩

end Command
end ScriptConsole
