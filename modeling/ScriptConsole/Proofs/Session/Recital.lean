import ScriptConsole.Proofs.Session.Reference

/-!
What a text shows that is given its answers beforehand. The text and the answers settle what is
shown and where the text gets; there is nothing else that it could depend on.
-/

namespace ScriptConsole

variable {σ : Type}

/-- Where a text has got to that goes on no further by itself. -/
inductive Halt where
  | ended (outcome : RunOutcome)
  | asking (prompt : Option String)

/-- What a text has shown, and where it has got to. -/
structure Recital where
  entries : List Entry
  halt : Halt

/-- These entries come first. -/
def Recital.after (recital : Recital) (shown : List Entry) : Recital :=
  { recital with entries := shown ++ recital.entries }

theorem Recital.after_after (recital : Recital) (first second : List Entry) :
    (recital.after second).after first = recital.after (first ++ second) := by
  simp only [after, List.append_assoc]

namespace Execution

/-- What comes of a text that gets one of these lines for each line that it asks for, up to where
it goes on no further. Lines that it does not ask for are left. -/
def recite : Execution σ → List String → Recital
  | .done (ending, _), _ =>
      ⟨(RunOutcome.ofEnding ending).event.entries, .ended (.ofEnding ending)⟩
  | .stdout text next, answers => (recite (next (.ok ())) answers).after [⟨.output, text⟩]
  | .stderr text next, answers => (recite (next (.ok ())) answers).after [⟨.error, text⟩]
  | .stdin prompt _, [] => ⟨Entry.ofText? .output prompt, .asking (Bridge.prompt prompt)⟩
  | .stdin prompt next, answer :: answers =>
      (recite (next (.ok answer)) answers).after
        (Entry.ofText? .output prompt ++ [⟨.input, answer⟩])

/-- With these answers the text has shown this much and has the rest before it. -/
def Leads (begun : Execution σ) (answers : List String) (shown : List Entry)
    (rest : Execution σ) : Prop :=
  ∀ more, begun.recite (answers ++ more) = (rest.recite more).after shown

variable {begun : Execution σ} {answers : List String} {shown : List Entry}

theorem leads_self (begun : Execution σ) : begun.Leads [] [] begun :=
  fun _ => rfl

theorem Leads.stdout {text : String} {next : Except HostError Unit → Execution σ}
    (h : begun.Leads answers shown (.stdout text next)) :
    begun.Leads answers (shown ++ [⟨.output, text⟩]) (next (.ok ())) := by
  intro more
  rw [h more, ← Recital.after_after]
  rfl

theorem Leads.stderr {text : String} {next : Except HostError Unit → Execution σ}
    (h : begun.Leads answers shown (.stderr text next)) :
    begun.Leads answers (shown ++ [⟨.error, text⟩]) (next (.ok ())) := by
  intro more
  rw [h more, ← Recital.after_after]
  rfl

variable {prompt : Option String} {next : Except HostError String → Execution σ}

theorem Leads.answered (h : begun.Leads answers shown (.stdin prompt next)) (answer : String) :
    begun.Leads (answers ++ [answer])
      (shown ++ Entry.ofText? .output prompt ++ [⟨.input, answer⟩]) (next (.ok answer)) := by
  intro more
  rw [List.append_assoc, h, List.append_assoc, ← Recital.after_after]
  rfl

theorem Leads.asking (h : begun.Leads answers shown (.stdin prompt next)) :
    begun.recite answers =
      ⟨shown ++ Entry.ofText? .output prompt, .asking (Bridge.prompt prompt)⟩ := by
  have hall := h []
  rwa [List.append_nil] at hall

theorem Leads.ended {ending : Ending (Option String)} {state : σ}
    (h : begun.Leads answers shown (.done (ending, state))) :
    begun.recite answers = ⟨shown ++ (RunOutcome.ofEnding ending).event.entries,
      .ended (.ofEnding ending)⟩ := by
  have hall := h []
  rwa [List.append_nil] at hall

end Execution
end ScriptConsole
