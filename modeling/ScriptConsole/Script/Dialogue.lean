import ScriptConsole.Error

/-!
A running script as a dialogue with its host: a tree whose nodes are the calls that the script
makes and whose branches are the answers that it may get. Two scripts that are equal as
dialogues behave alike under every host.
-/

namespace ScriptConsole

inductive Dialogue (α : Type) where
  | done (result : α)
  | stdout (text : String) (next : Except HostError Unit → Dialogue α)
  | stderr (text : String) (next : Except HostError Unit → Dialogue α)
  | stdin (prompt : Option String) (next : Except HostError String → Dialogue α)

namespace Dialogue

/-- The first dialogue, then the one that its result selects. -/
def bind {α β : Type} : Dialogue α → (α → Dialogue β) → Dialogue β
  | done a, f => f a
  | stdout text next, f => stdout text fun r => (next r).bind f
  | stderr text next, f => stderr text fun r => (next r).bind f
  | stdin prompt next, f => stdin prompt fun r => (next r).bind f

instance : Monad Dialogue where
  pure := done
  bind := bind

@[simp]
theorem done_bind {α β : Type} (a : α) (f : α → Dialogue β) : (done a).bind f = f a := rfl

@[simp]
theorem bind_done {α : Type} (d : Dialogue α) : d.bind done = d := by
  induction d with
  | done a => rfl
  | stdout text next ih => exact congrArg (stdout text) (funext ih)
  | stderr text next ih => exact congrArg (stderr text) (funext ih)
  | stdin prompt next ih => exact congrArg (stdin prompt) (funext ih)

theorem bind_assoc {α β γ : Type} (d : Dialogue α) (f : α → Dialogue β) (g : β → Dialogue γ) :
    (d.bind f).bind g = d.bind fun a => (f a).bind g := by
  induction d with
  | done a => rfl
  | stdout text next ih => exact congrArg (stdout text) (funext ih)
  | stderr text next ih => exact congrArg (stderr text) (funext ih)
  | stdin prompt next ih => exact congrArg (stdin prompt) (funext ih)

instance : LawfulMonad Dialogue :=
  LawfulMonad.mk' Dialogue bind_done done_bind bind_assoc

/-- One call of a host service, as an entry of a log. -/
inductive Call where
  | stdout (text : String)
  | stderr (text : String)
  | stdin (prompt : Option String)
  deriving DecidableEq

/-- A host that answers requests for input from a list, finds the input closed after its end,
and lets at most `writesLeft` writes through, if that is given. -/
structure ListHost where
  answers : List (Except HostError String)
  writesLeft : Option Nat

namespace ListHost

/-- The host after one more write, or `none` if it lets no more through. -/
def write? (host : ListHost) : Option ListHost :=
  match host.writesLeft with
  | none => some host
  | some 0 => none
  | some (n + 1) => some { host with writesLeft := some n }

def read (host : ListHost) : Except HostError String × ListHost :=
  match host.answers with
  | [] => (.error .bufferClosed, host)
  | answer :: rest => (answer, { host with answers := rest })

end ListHost

/-- The calls that a dialogue makes of a `ListHost`, without the writes that fail, its result
and the host that is left. A write that does not get through finds the other side gone. -/
def runWith {α : Type} : Dialogue α → ListHost → List Call × α × ListHost
  | done a, host => ([], a, host)
  | stdout text next, host =>
      match host.write? with
      | some host =>
          let (calls, a, host) := runWith (next (.ok ())) host
          (.stdout text :: calls, a, host)
      | none => runWith (next (.error .disconnected)) host
  | stderr text next, host =>
      match host.write? with
      | some host =>
          let (calls, a, host) := runWith (next (.ok ())) host
          (.stderr text :: calls, a, host)
      | none => runWith (next (.error .disconnected)) host
  | stdin prompt next, host =>
      let (answer, host) := host.read
      let (calls, a, host) := runWith (next answer) host
      (.stdin prompt :: calls, a, host)

end Dialogue
end ScriptConsole
