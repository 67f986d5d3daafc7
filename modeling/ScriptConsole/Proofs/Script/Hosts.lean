import Mathlib.Data.List.Basic
import ScriptConsole.Proofs.Script.Endings

/-!
Dialogues with a host that is lost in the middle. A host that lets fewer writes through than a
dialogue wants to make sees the beginning of what a host without a limit sees; a dialogue that
gives up where a write fails makes no call after it.
-/

namespace ScriptConsole.Dialogue

variable {α β : Type}

/-- The call is one that a lost host lets fail. -/
def Call.isWrite : Call → Bool
  | .stdout _ | .stderr _ => true
  | .stdin _ => false

/-- How many of the calls are writes. -/
def writes (calls : List Call) : Nat :=
  calls.countP Call.isWrite

theorem writes_append (calls more : List Call) :
    writes (calls ++ more) = writes calls + writes more :=
  List.countP_append

theorem writes_cons_of_isWrite {call : Call} (hwrite : call.isWrite = true) (calls : List Call) :
    writes (call :: calls) = writes calls + 1 :=
  List.countP_cons_of_pos hwrite

theorem writes_cons_stdin (prompt : Option String) (calls : List Call) :
    writes (.stdin prompt :: calls) = writes calls :=
  List.countP_cons_of_neg Bool.false_ne_true

/-- All calls that a dialogue makes of a host, those that fail included. -/
def attempts : Dialogue α → ListHost → List Call
  | done _, _ => []
  | stdout text next, host =>
      .stdout text :: match host.write? with
        | some host => attempts (next (.ok ())) host
        | none => attempts (next (.error .disconnected)) host
  | stderr text next, host =>
      .stderr text :: match host.write? with
        | some host => attempts (next (.ok ())) host
        | none => attempts (next (.error .disconnected)) host
  | stdin prompt next, host =>
      .stdin prompt :: attempts (next host.read.1) host.read.2

/-! ### Both streams alike -/

/-- The dialogue begins with this write and goes on so. -/
inductive Sends : Dialogue α → Call → (Except HostError Unit → Dialogue α) → Prop where
  | stdout (text : String) (next : Except HostError Unit → Dialogue α) :
      Sends (.stdout text next) (.stdout text) next
  | stderr (text : String) (next : Except HostError Unit → Dialogue α) :
      Sends (.stderr text next) (.stderr text) next

/-- Induction over a dialogue that treats both streams alike. -/
@[elab_as_elim]
theorem byCalls {motive : Dialogue α → Prop} (done : ∀ a, motive (.done a))
    (write : ∀ dialogue call next, Sends dialogue call next → (∀ answer, motive (next answer)) →
      motive dialogue)
    (stdin : ∀ prompt next, (∀ answer, motive (next answer)) → motive (.stdin prompt next))
    (dialogue : Dialogue α) : motive dialogue := by
  induction dialogue with
  | done a => exact done a
  | stdout text next ih => exact write _ _ next (.stdout text next) ih
  | stderr text next ih => exact write _ _ next (.stderr text next) ih
  | stdin prompt next ih => exact stdin prompt next ih

namespace Sends

variable {dialogue : Dialogue α} {call : Call} {next : Except HostError Unit → Dialogue α}
  {host host' : ListHost}

theorem isWrite (h : dialogue.Sends call next) : call.isWrite = true := by
  cases h <;> rfl

theorem bind (h : dialogue.Sends call next) (f : α → Dialogue β) :
    (dialogue.bind f).Sends call fun answer => (next answer).bind f := by
  cases h with
  | stdout text => exact .stdout text _
  | stderr text => exact .stderr text _

theorem runWith_some (h : dialogue.Sends call next) (hlets : host.write? = some host') :
    dialogue.runWith host =
      (call :: ((next (.ok ())).runWith host').1, ((next (.ok ())).runWith host').2) := by
  cases h <;> rw [runWith, hlets]

theorem runWith_none (h : dialogue.Sends call next) (hlost : host.write? = none) :
    dialogue.runWith host = (next (.error .disconnected)).runWith host := by
  cases h <;> rw [runWith, hlost]

theorem attempts_some (h : dialogue.Sends call next) (hlets : host.write? = some host') :
    dialogue.attempts host = call :: (next (.ok ())).attempts host' := by
  cases h <;> rw [attempts, hlets]

theorem attempts_none (h : dialogue.Sends call next) (hlost : host.write? = none) :
    dialogue.attempts host = call :: (next (.error .disconnected)).attempts host := by
  cases h <;> rw [attempts, hlost]

end Sends

section

variable {prompt : Option String} {next : Except HostError String → Dialogue α}
  {host host' : ListHost} {answer : Except HostError String}

theorem runWith_stdin (hread : host.read = (answer, host')) :
    (stdin prompt next).runWith host =
      (.stdin prompt :: ((next answer).runWith host').1, ((next answer).runWith host').2) := by
  rw [runWith, hread]

theorem attempts_stdin (hread : host.read = (answer, host')) :
    (stdin prompt next).attempts host = .stdin prompt :: (next answer).attempts host' := by
  rw [attempts, hread]

end

/-! ### One dialogue after another -/

theorem runWith_bind (dialogue : Dialogue α) (f : α → Dialogue β) (host : ListHost) :
    (dialogue.bind f).runWith host =
      ((dialogue.runWith host).1 ++
          ((f (dialogue.runWith host).2.1).runWith (dialogue.runWith host).2.2).1,
        ((f (dialogue.runWith host).2.1).runWith (dialogue.runWith host).2.2).2) := by
  induction dialogue using byCalls generalizing host with
  | done a => rfl
  | write dialogue call next h ih =>
      cases hlets : host.write? with
      | none => rw [(h.bind f).runWith_none hlets, h.runWith_none hlets, ih]
      | some host' =>
          rw [(h.bind f).runWith_some hlets, h.runWith_some hlets, ih, List.cons_append]
  | stdin prompt next ih =>
      rw [Dialogue.bind, runWith_stdin rfl, runWith_stdin rfl, ih, List.cons_append]

theorem attempts_bind (dialogue : Dialogue α) (f : α → Dialogue β) (host : ListHost) :
    (dialogue.bind f).attempts host = dialogue.attempts host ++
      (f (dialogue.runWith host).2.1).attempts (dialogue.runWith host).2.2 := by
  induction dialogue using byCalls generalizing host with
  | done a => rfl
  | write dialogue call next h ih =>
      cases hlets : host.write? with
      | none =>
          rw [(h.bind f).attempts_none hlets, h.attempts_none hlets, h.runWith_none hlets, ih,
            List.cons_append]
      | some host' =>
          rw [(h.bind f).attempts_some hlets, h.attempts_some hlets, h.runWith_some hlets, ih,
            List.cons_append]
  | stdin prompt next ih =>
      rw [Dialogue.bind, attempts_stdin rfl, attempts_stdin rfl, runWith_stdin rfl, ih,
        List.cons_append]

theorem Ends.runWith {P : α → Prop} {dialogue : Dialogue α} (h : dialogue.Ends P)
    (host : ListHost) : P (dialogue.runWith host).2.1 := by
  induction dialogue using byCalls generalizing host with
  | done a => exact h
  | write dialogue call next hsends ih =>
      have hnext : ∀ answer, (next answer).Ends P := by
        cases hsends <;> exact h
      cases hlets : host.write? with
      | none =>
          rw [hsends.runWith_none hlets]
          exact ih _ (hnext _) host
      | some host' =>
          rw [hsends.runWith_some hlets]
          exact ih _ (hnext _) host'
  | stdin prompt next ih =>
      rw [runWith_stdin rfl]
      exact ih _ (h _) _

/-! ### Hosts that let enough writes through -/

variable {answers : List (Except HostError String)} {n : Nat}

/-- What the dialogue does with a host that lets every write through. -/
abbrev freely (dialogue : Dialogue α) (answers : List (Except HostError String)) :
    List Call × α × ListHost :=
  dialogue.runWith ⟨answers, none⟩

theorem Sends.freely {dialogue : Dialogue α} {call : Call}
    {next : Except HostError Unit → Dialogue α} (h : dialogue.Sends call next)
    (answers : List (Except HostError String)) : dialogue.freely answers =
      (call :: ((next (.ok ())).freely answers).1, ((next (.ok ())).freely answers).2) :=
  h.runWith_some rfl

theorem Ends.of_freely {P : α → Prop} {dialogue : Dialogue α} (h : dialogue.Ends P)
    {calls : List Call} {a : α} {host : ListHost}
    (hruns : dialogue.freely answers = (calls, a, host)) : P a := by
  have hends := h.runWith ⟨answers, none⟩
  rw [freely] at hruns
  rw [hruns] at hends
  exact hends

theorem freely_bind {dialogue : Dialogue α} {f : α → Dialogue β} {calls : List Call} {a : α}
    {rest : List (Except HostError String)}
    (hfirst : dialogue.freely answers = (calls, a, ⟨rest, none⟩)) :
    (dialogue.bind f).freely answers =
      (calls ++ ((f a).freely rest).1, ((f a).freely rest).2) := by
  rw [freely] at hfirst
  rw [freely, runWith_bind, hfirst]

theorem freely_bind_done {dialogue : Dialogue α} {f : α → Dialogue β} {calls : List Call} {a : α}
    {b : β} {host : ListHost} (hfirst : dialogue.freely answers = (calls, a, host))
    (hdone : f a = .done b) : (dialogue.bind f).freely answers = (calls, b, host) := by
  rw [freely] at hfirst
  rw [freely, runWith_bind, hfirst, hdone, runWith, List.append_nil]

theorem exists_read (answers : List (Except HostError String)) :
    ∃ answer rest, ∀ limit, ListHost.read ⟨answers, limit⟩ = (answer, ⟨rest, limit⟩) := by
  cases answers with
  | nil => exact ⟨.error .bufferClosed, [], fun _ => rfl⟩
  | cons answer rest => exact ⟨answer, rest, fun _ => rfl⟩

/-- A host that lets every write through is left as such a host. -/
theorem exists_freely (dialogue : Dialogue α) (answers : List (Except HostError String)) :
    ∃ calls a rest, dialogue.freely answers = (calls, a, ⟨rest, none⟩) := by
  induction dialogue using byCalls generalizing answers with
  | done a => exact ⟨[], a, answers, rfl⟩
  | write dialogue call next hsends ih =>
      obtain ⟨calls, a, rest, hmore⟩ := ih (.ok ()) answers
      refine ⟨call :: calls, a, rest, ?_⟩
      rw [hsends.freely, hmore]
  | stdin prompt next ih =>
      obtain ⟨answer, rest, hread⟩ := exists_read answers
      obtain ⟨calls, a, rest, hmore⟩ := ih answer rest
      refine ⟨.stdin prompt :: calls, a, rest, ?_⟩
      rw [freely] at hmore ⊢
      rw [runWith_stdin (hread none), hmore]

theorem runWith_of_writes_le (dialogue : Dialogue α)
    (h : writes (dialogue.freely answers).1 ≤ n) :
    dialogue.runWith ⟨answers, some n⟩ =
        ((dialogue.freely answers).1, (dialogue.freely answers).2.1,
          ⟨(dialogue.freely answers).2.2.answers,
            some (n - writes (dialogue.freely answers).1)⟩) ∧
      dialogue.attempts ⟨answers, some n⟩ = (dialogue.freely answers).1 := by
  induction dialogue using byCalls generalizing answers n with
  | done a => exact ⟨rfl, rfl⟩
  | write dialogue call next hsends ih =>
      rw [hsends.freely, writes_cons_of_isWrite hsends.isWrite] at h ⊢
      cases n with
      | zero => cases h
      | succ n =>
          have hlets : (ListHost.mk answers (some (n + 1))).write? = some ⟨answers, some n⟩ := rfl
          obtain ⟨hruns, hattempts⟩ := ih (.ok ()) (Nat.le_of_succ_le_succ h)
          rw [hsends.runWith_some hlets, hsends.attempts_some hlets, hruns, hattempts,
            Nat.add_sub_add_right]
          exact ⟨rfl, rfl⟩
  | stdin prompt next ih =>
      obtain ⟨answer, rest, hread⟩ := exists_read answers
      rw [freely, runWith_stdin (hread none), writes_cons_stdin] at h ⊢
      obtain ⟨hruns, hattempts⟩ := ih answer h
      rw [runWith_stdin (hread (some n)), attempts_stdin (hread (some n)), hruns, hattempts]
      exact ⟨rfl, rfl⟩

/-! ### Hosts that are lost -/

/-- Where a write finds the other side gone, the dialogue ends at once in this result. -/
inductive StopsWith (lost : α) : Dialogue α → Prop where
  | done (a : α) : StopsWith lost (.done a)
  | write {dialogue : Dialogue α} {call : Call} {next : Except HostError Unit → Dialogue α}
      (hsends : dialogue.Sends call next) (hlost : next (.error .disconnected) = .done lost)
      (h : StopsWith lost (next (.ok ()))) : StopsWith lost dialogue
  | stdin {prompt : Option String} {next : Except HostError String → Dialogue α}
      (h : ∀ answer, StopsWith lost (next answer)) : StopsWith lost (.stdin prompt next)

theorem StopsWith.bind {lost : α} {lost' : β} {dialogue : Dialogue α} {f : α → Dialogue β}
    (h : dialogue.StopsWith lost) (hlost : f lost = .done lost')
    (hnext : ∀ a, (f a).StopsWith lost') : (dialogue.bind f).StopsWith lost' := by
  induction h with
  | done a => exact hnext a
  | write hsends hend _ ih =>
      refine .write (hsends.bind f) ?_ ih
      rw [hend, done_bind, hlost]
  | stdin _ ih => exact .stdin ih

/-- With these answers, and with one write too many for the limit `n`, the dialogue makes the
calls `before`, then the write `call`, which fails, and none after it. -/
structure CutAt (dialogue : Dialogue α) (answers : List (Except HostError String)) (n : Nat)
    (before : List Call) (call : Call) (ended : α) : Prop where
  isWrite : call.isWrite = true
  writes : writes before = n
  isPrefix : before ++ [call] <+: (dialogue.freely answers).1
  calls : (dialogue.runWith ⟨answers, some n⟩).1 = before
  ended : (dialogue.runWith ⟨answers, some n⟩).2.1 = ended
  attempts : dialogue.attempts ⟨answers, some n⟩ = before ++ [call]

theorem StopsWith.exists_cutAt {lost : α} {dialogue : Dialogue α} (h : dialogue.StopsWith lost)
    (hmore : n < Dialogue.writes (dialogue.freely answers).1) :
    ∃ before call, dialogue.CutAt answers n before call lost := by
  induction h generalizing answers n with
  | done a => cases hmore
  | @write dialogue call next hsends hlost _ ih =>
      rw [hsends.freely, writes_cons_of_isWrite hsends.isWrite] at hmore
      cases n with
      | zero =>
          have hnone : (ListHost.mk answers (some 0)).write? = none := rfl
          refine ⟨[], call, hsends.isWrite, rfl, ?_, ?_, ?_, ?_⟩
          · rw [hsends.freely]
            exact ⟨_, rfl⟩
          · rw [hsends.runWith_none hnone, hlost, runWith]
          · rw [hsends.runWith_none hnone, hlost, runWith]
          · rw [hsends.attempts_none hnone, hlost, attempts, List.nil_append]
      | succ n =>
          have hlets : (ListHost.mk answers (some (n + 1))).write? = some ⟨answers, some n⟩ := rfl
          obtain ⟨before, lost, hcut⟩ := ih (Nat.lt_of_succ_lt_succ hmore)
          refine ⟨call :: before, lost, hcut.isWrite, ?_, ?_, ?_, ?_, ?_⟩
          · rw [writes_cons_of_isWrite hsends.isWrite, hcut.writes]
          · rw [hsends.freely]
            exact List.cons_prefix_cons.mpr ⟨rfl, hcut.isPrefix⟩
          · rw [hsends.runWith_some hlets, hcut.calls]
          · rw [hsends.runWith_some hlets, hcut.ended]
          · rw [hsends.attempts_some hlets, hcut.attempts, List.cons_append]
  | @stdin prompt next _ ih =>
      obtain ⟨answer, rest, hread⟩ := exists_read answers
      rw [freely, runWith_stdin (hread none), writes_cons_stdin] at hmore
      obtain ⟨before, call, hcut⟩ := ih answer hmore
      refine ⟨.stdin prompt :: before, call, hcut.isWrite, ?_, ?_, ?_, ?_, ?_⟩
      · rw [writes_cons_stdin, hcut.writes]
      · rw [freely, runWith_stdin (hread none)]
        exact List.cons_prefix_cons.mpr ⟨rfl, hcut.isPrefix⟩
      · rw [runWith_stdin (hread _), hcut.calls]
      · rw [runWith_stdin (hread _), hcut.ended]
      · rw [attempts_stdin (hread _), hcut.attempts, List.cons_append]

namespace CutAt

variable {dialogue : Dialogue α} {f : α → Dialogue β} {before : List Call} {call : Call}
  {lost : α} {lost' : β}

/-- The cut is in the first of two dialogues, and the second one ends at once. -/
theorem bind (h : dialogue.CutAt answers n before call lost) (hlost : f lost = .done lost') :
    (dialogue.bind f).CutAt answers n before call lost' where
  isWrite := h.isWrite
  writes := h.writes
  isPrefix := by
    rw [freely, runWith_bind]
    exact h.isPrefix.trans (List.prefix_append _ _)
  calls := by rw [runWith_bind, h.calls, h.ended, hlost, runWith, List.append_nil]
  ended := by rw [runWith_bind, h.ended, hlost, runWith]
  attempts := by rw [attempts_bind, h.attempts, h.ended, hlost, Dialogue.attempts, List.append_nil]

/-- The cut is in the second of two dialogues. -/
theorem after {calls : List Call} {a : α} {rest : List (Except HostError String)}
    (hfirst : dialogue.freely answers = (calls, a, ⟨rest, none⟩)) (hfew : Dialogue.writes calls ≤ n)
    (h : (f a).CutAt rest (n - Dialogue.writes calls) before call lost') :
    (dialogue.bind f).CutAt answers n (calls ++ before) call lost' := by
  have hwrites : Dialogue.writes (dialogue.freely answers).1 ≤ n := by
    rw [hfirst]
    exact hfew
  obtain ⟨hruns, hattempts⟩ := runWith_of_writes_le dialogue hwrites
  rw [hfirst] at hruns hattempts
  refine ⟨h.isWrite, ?_, ?_, ?_, ?_, ?_⟩
  · rw [writes_append, h.writes, Nat.add_sub_cancel' hfew]
  · rw [freely_bind hfirst, List.append_assoc, List.prefix_append_right_inj]
    exact h.isPrefix
  · rw [runWith_bind, hruns, h.calls]
  · rw [runWith_bind, hruns, h.ended]
  · rw [attempts_bind, hruns, hattempts, h.attempts, List.append_assoc]

end CutAt
end ScriptConsole.Dialogue
