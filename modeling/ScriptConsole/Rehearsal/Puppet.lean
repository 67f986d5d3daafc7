import ScriptConsole.Interpreter
import ScriptConsole.Text.Decimal
import ScriptConsole.Text.Quoted

/-!
An interpreter that does what its texts tell it to: each text is a word and, behind a colon,
the text that the word is about.
-/

namespace ScriptConsole.Rehearsal

/-- What a puppet knows. -/
structure Puppet where
  config : BootConfig
  runs : Nat

namespace Puppet

/-- The word before the first colon and the text behind it. -/
def order? (code : String) : Option (String × String) :=
  match code.toList.dropWhile (· != ':') with
  | [] => none
  | _ :: text => some (String.ofList (code.toList.takeWhile (· != ':')), String.ofList text)

/-- The word and its text; without a colon the text is empty. -/
def order (code : String) : String × String :=
  (order? code).getD (code, "")

/-- Boot as the script of the play says. A word without a colon is no order to fail. -/
def boot (script : String) (config : BootConfig) : Boot Puppet :=
  match order? script with
  | some ("fail", reason) => .refused reason
  | some ("panic", message) => .panicked (some message)
  | _ => .ready ⟨config, 0⟩

/-- The ending after a write. -/
def written {α : Type} (result : α) : Except HostError Unit → Ending α
  | .ok () => .ok result
  | .error cause => .raised cause.toScriptError

def load (code : String) (puppet : Puppet) : Dialogue (Ending Unit × Puppet) :=
  match order code with
  | ("load-error", text) => .done (.raised ⟨"ImportError", text⟩, puppet)
  | ("load-panic", text) => .done (.panicked (some text), puppet)
  | ("load-out", text) => .stdout text fun r => .done (written () r, puppet)
  | _ => .done (.ok (), puppet)

/-- The ending after a request for input: the line is the result. -/
def answered : Except HostError String → Ending (Option String)
  | .ok line => .ok (some line)
  | .error cause => .raised cause.toScriptError

def run (code : String) (puppet : Puppet) : Dialogue (Ending (Option String) × Puppet) :=
  let puppet := { puppet with runs := puppet.runs + 1 }
  match order code with
  | ("panic", text) => .done (.panicked (some text), puppet)
  | ("panic-literal", _) => .done (.panicked (some "literal text"), puppet)
  | ("panic-number", _) => .done (.panicked none, puppet)
  | ("raise", text) => .done (.raised ⟨"PuppetError", text⟩, puppet)
  | ("input", text) => .stdin (some text) fun r => .done (answered r, puppet)
  | ("err", text) => .stderr text fun r => .done (written none r, puppet)
  | ("base", _) =>
      let packages := Text.quotedList puppet.config.packages
      .done (.ok (some (puppet.config.baseUrl ++ " " ++ packages)), puppet)
  | ("runs", _) => .done (.ok (some (String.ofList (Text.decimal puppet.runs))), puppet)
  | (_, text) => .done (.ok (some text), puppet)

/-- The puppet that boots as `script` says. -/
def interpreter (script : String) : Interpreter Puppet :=
  ⟨boot script, load, run⟩

end Puppet
end ScriptConsole.Rehearsal
