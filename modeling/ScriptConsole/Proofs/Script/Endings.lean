import ScriptConsole.Script.Interpreter

/-!
How the texts of an interpreter end. The interpreter of the language never breaks down, and a
result that it gives is a text that is there to be seen.
-/

namespace ScriptConsole

namespace Dialogue

variable {α β : Type} {P : α → Prop} {Q : β → Prop}

/-- Whatever a host answers, the dialogue ends in a result of this kind. -/
def Ends (P : α → Prop) : Dialogue α → Prop
  | done result => P result
  | stdout _ next => ∀ answer, (next answer).Ends P
  | stderr _ next => ∀ answer, (next answer).Ends P
  | stdin _ next => ∀ answer, (next answer).Ends P

theorem ends_of_forall (h : ∀ result, P result) (dialogue : Dialogue α) : dialogue.Ends P := by
  induction dialogue with
  | done result => exact h result
  | stdout text next ih => exact ih
  | stderr text next ih => exact ih
  | stdin prompt next ih => exact ih

theorem Ends.imp {dialogue : Dialogue α} (h : dialogue.Ends P) {P' : α → Prop}
    (himp : ∀ result, P result → P' result) : dialogue.Ends P' := by
  induction dialogue with
  | done result => exact himp result h
  | stdout text next ih => exact fun answer => ih answer (h answer)
  | stderr text next ih => exact fun answer => ih answer (h answer)
  | stdin prompt next ih => exact fun answer => ih answer (h answer)

theorem Ends.bind {dialogue : Dialogue α} (h : dialogue.Ends P) {f : α → Dialogue β}
    (hnext : ∀ result, P result → (f result).Ends Q) : (dialogue.bind f).Ends Q := by
  induction dialogue with
  | done result => exact hnext result h
  | stdout text next ih => exact fun answer => ih answer (h answer)
  | stderr text next ih => exact fun answer => ih answer (h answer)
  | stdin prompt next ih => exact fun answer => ih answer (h answer)

end Dialogue

/-- The text came to an end of its own. -/
def Ending.IsOrderly {α : Type} (ending : Ending α) : Prop :=
  ∀ message, ending ≠ .panicked message

/-- Every text of the interpreter comes to an end of its own, and no result is empty. -/
def Interpreter.IsPlain {σ : Type} (interpreter : Interpreter σ) : Prop :=
  ∀ code state, (interpreter.loadAndRun code state).Ends fun ended =>
    ended.1.IsOrderly ∧ ended.1 ≠ .ok (some "")

namespace Script

theorem Value.display_ne_empty (value : Value) : value.display ≠ "" := by
  intro hempty
  have hchars := congrArg String.toList hempty
  cases value with
  | nothing => simp [display, text] at hempty
  | bool b => cases b <;> simp [display, text] at hempty
  | int n =>
      simp only [display, text, String.toList_ofList] at hchars
      cases hsign : n.toInt with
      | ofNat m =>
          simp only [hsign, Text.signedDecimal, Text.decimal] at hchars
          exact Nat.toDigits_ne_nil hchars
      | negSucc m => simp [hsign, Text.signedDecimal] at hchars
  | str text => simp [display, quote] at hchars
  | exception kind message => simp [display, quote] at hchars

theorem perform_ends {α : Type} {P : α → Prop} (script : Running α) (scope : Scope)
    (h : (script.run scope).Ends fun ended => ∀ result, ended.1 = .ok result → P result) :
    (perform script scope).Ends fun ended =>
      ended.1.IsOrderly ∧ ∀ result, ended.1 = .ok result → P result := by
  refine h.bind fun ended hended => ?_
  obtain ⟨outcome, scope⟩ := ended
  cases outcome with
  | error fault => exact ⟨by rintro _ ⟨⟩, by rintro _ ⟨⟩⟩
  | ok result =>
      refine ⟨by rintro _ ⟨⟩, ?_⟩
      rintro _ ⟨⟩
      exact hended result rfl

theorem runCode_ends (code : String) (scope : Scope) :
    ((runCode code).run scope).Ends fun ended =>
      ∀ result, ended.1 = .ok result → result ≠ some "" := by
  refine @Dialogue.Ends.bind _ _ _ _ ((Item.runAll none (Item.ofLines (SourceLine.ofText code))).run
    scope) (Dialogue.ends_of_forall (fun _ => trivial) _) _ fun ended _ => ?_
  obtain ⟨outcome, scope⟩ := ended
  cases outcome with
  | error fault => rintro _ ⟨⟩
  | ok value =>
      rintro _ ⟨⟩
      cases value with
      | none => simp
      | some value => simpa using value.display_ne_empty

theorem interpreter_isPlain (available : List String) : (interpreter available).IsPlain := by
  intro code state
  have hload : ((interpreter available).load code state).Ends _ :=
    perform_ends (loadImports code) state (Dialogue.ends_of_forall (fun _ _ _ => trivial) _)
  refine hload.bind fun loaded hloaded => ?_
  obtain ⟨ending, state⟩ := loaded
  cases ending with
  | raised error => exact ⟨by rintro _ ⟨⟩, by rintro ⟨⟩⟩
  | panicked message => exact absurd rfl (hloaded.1 message)
  | ok result =>
      refine (perform_ends (runCode code) state (runCode_ends code state)).imp ?_
      exact fun ended hended => ⟨hended.1, fun hempty => hended.2 _ hempty rfl⟩

end Script
end ScriptConsole
