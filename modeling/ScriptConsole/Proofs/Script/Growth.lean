import ScriptConsole.Proofs.Script.Steps

/-!
How a scope grows while a text is loaded and run. More modules may be loaded afterwards, but only
such as can be imported at all; and what is executed is always a line of the text.
-/

namespace ScriptConsole.Script

open Dialogue (Call)

/-! ### Scopes that grow -/

/-- More may be loaded afterwards, but only what can be imported at all. -/
structure Extends (before after : Scope) : Prop where
  available : after.available = before.available
  keeps : ∀ module, before.isLoaded module = true → after.isLoaded module = true
  within : ∀ module, after.isLoaded module = true → before.isLoaded module = true ∨
    module ∈ before.available ∨ module ∈ builtinModules

theorem Extends.refl (scope : Scope) : Extends scope scope :=
  ⟨rfl, fun _ => id, fun _ => .inl⟩

theorem Extends.trans {first second third : Scope} (h : Extends first second)
    (h' : Extends second third) : Extends first third where
  available := h'.available.trans h.available
  keeps module hloaded := h'.keeps module (h.keeps module hloaded)
  within module hloaded := by
    rcases h'.within module hloaded with hloaded | hother
    · exact h.within module hloaded
    · rw [← h.available]
      exact .inr hother

theorem Scope.isLoaded_load (scope : Scope) (module other : String) :
    (scope.load module).isLoaded other = true ↔ scope.isLoaded other = true ∨ other = module := by
  rw [load]
  split
  · next hloaded =>
    constructor
    · exact .inl
    · rintro (hother | rfl)
      · exact hother
      · exact hloaded
  · rw [isLoaded, isLoaded, List.contains_cons, Bool.or_eq_true, beq_iff_eq, or_comm]

theorem Scope.available_load (scope : Scope) (module : String) :
    (scope.load module).available = scope.available := by
  rw [load]
  split <;> rfl

theorem Extends.load {scope : Scope} {module : String} (h : scope.isLoaded module = true ∨
    module ∈ scope.available ∨ module ∈ builtinModules) : Extends scope (scope.load module) where
  available := scope.available_load module
  keeps other hother := (scope.isLoaded_load module other).mpr (.inl hother)
  within other hother := by
    rcases (scope.isLoaded_load module other).mp hother with hother | rfl
    · exact .inl hother
    · exact h

theorem Extends.set (scope : Scope) (name : String) (value : Value) :
    Extends scope (scope.set name value) :=
  ⟨rfl, fun _ => id, fun _ => .inl⟩

/-- Whatever the host answers, the script leaves a scope that has grown so. -/
def Widens {α : Type} (script : Running α) : Prop :=
  ∀ scope, (script.run scope).Ends fun ended => Extends scope ended.2

section Widens

variable {α β : Type}

theorem widens_pure (a : α) : Widens (pure a) :=
  Extends.refl

theorem widens_throw (fault : Fault) : Widens (throw fault : Running α) :=
  Extends.refl

theorem widens_observe (action : Scope → Action α) : Widens (observe action) := by
  intro scope
  refine Dialogue.Ends.bind (Dialogue.ends_of_forall (fun _ => trivial) _) fun result _ => ?_
  exact Extends.refl scope

theorem Widens.bind {script : Running α} (h : Widens script) {f : α → Running β}
    (hnext : ∀ a, Widens (f a)) : Widens (script >>= f) := by
  intro scope
  rw [run_bind]
  refine (h scope).bind fun ended hended => ?_
  obtain ⟨outcome, scope'⟩ := ended
  cases outcome with
  | ok a => exact (hnext a scope').imp fun _ hmore => hended.trans hmore
  | error fault => exact hended

end Widens

theorem Scope.imports_iff {scope : Scope} {module : String} : scope.imports module = true ↔
    scope.isLoaded module = true ∨ module ∈ builtinModules := by
  rw [imports, Bool.or_eq_true, List.contains_iff_mem]

theorem widens_importModules (modules : List String) : Widens (importModules modules) := by
  induction modules with
  | nil => exact widens_pure ()
  | cons module modules ih =>
      intro scope
      rw [importModules_cons]
      split
      · next himports =>
        have hload : Extends scope (scope.load module) :=
          .load ((Scope.imports_iff.mp himports).imp_right .inr)
        exact (ih (scope.load module)).imp fun _ hmore => hload.trans hmore
      · exact Extends.refl scope

theorem widens_loadModules (modules : List String) : Widens (loadModules modules) := by
  induction modules with
  | nil => exact widens_pure ()
  | cons module modules ih =>
      rw [loadModules_cons]
      refine Widens.bind ?_ fun _ => ih
      intro scope
      rw [loadModules_singleton]
      split
      · next hlacks =>
        intro answer
        cases answer with
        | ok _ => exact Extends.load (.inr (.inl (Scope.lacks_iff.mp hlacks).2))
        | error cause => exact Extends.refl scope
      · exact Extends.refl scope

theorem widens_execute (text : List Char) : Widens (execute text) := by
  rw [execute]
  split
  · exact widens_pure none
  · split
    · exact (widens_importModules _).bind fun _ => widens_pure none
    · apply (widens_observe _).bind
      intro tokens
      split
      · apply (widens_observe _).bind
        intro value
        split
        · exact widens_throw _
        · exact widens_throw _
      · apply (widens_observe _).bind
        intro value scope
        exact Extends.set scope _ value
      · apply (widens_observe _).bind
        intro value
        split
        · exact widens_pure none
        · exact widens_pure _

theorem Step.widens_perform (last : Option Value) (step : Step) : Widens (step.perform last) := by
  rcases step with module | text | ⟨condition, body, orelse⟩ | fault
  · exact (widens_loadModules _).bind fun _ => widens_pure _
  · exact (widens_execute text).bind fun _ => widens_pure _
  · exact (widens_observe _).bind fun _ => widens_pure _
  · exact widens_throw fault

theorem widens_executeAll (last : Option Value) (texts : List (List Char)) :
    Widens (executeAll last texts) := by
  induction texts generalizing last with
  | nil => exact widens_pure last
  | cons text texts ih => exact (widens_execute text).bind ih

theorem Item.widens_runAll (last : Option Value) (items : List Item) :
    Widens (runAll last items) := by
  induction items generalizing last with
  | nil => exact widens_pure last
  | cons item items ih =>
      refine Widens.bind ?_ ih
      cases item with
      | simple text => exact widens_execute text
      | branch condition body orelse =>
          exact (widens_observe _).bind fun value => widens_executeAll none _
      | malformed fault => exact widens_throw fault

/-! ### The lines that are executed -/

/-- The statements in an item. -/
def Item.texts : Item → List (List Char)
  | simple text => [text]
  | branch _ body orelse => body ++ orelse
  | malformed _ => []

/-- The statements in a step. -/
def Step.texts : Step → List (List Char)
  | load _ => []
  | item piece => piece.texts

namespace Item

theorem block_subset {header : Nat} {ls rest : List SourceLine} {body : List (List Char)}
    (h : block header ls = .ok (body, rest)) : body ⊆ ls.map (·.text) ∧ rest ⊆ ls := by
  simp only [block] at h
  split at h
  · cases h
  · split at h
    · cases h
    · obtain ⟨rfl, rfl⟩ := Prod.mk.inj (Except.ok.inj h)
      constructor
      · exact List.map_subset _ (List.takeWhile_sublist _).subset
      · exact (List.dropWhile_sublist _).subset

theorem elseBlock_subset {ls rest : List SourceLine} {body : List (List Char)}
    (h : elseBlock ls = .ok (body, rest)) : body ⊆ ls.map (·.text) ∧ rest ⊆ ls := by
  cases ls with
  | nil =>
      obtain ⟨rfl, rfl⟩ := Prod.mk.inj (Except.ok.inj h)
      exact ⟨List.nil_subset _, List.nil_subset _⟩
  | cons line ls =>
      rw [elseBlock] at h
      split at h
      · obtain ⟨hbody, hrest⟩ := block_subset h
        exact ⟨List.subset_cons_of_subset _ hbody, List.subset_cons_of_subset _ hrest⟩
      · obtain ⟨rfl, rfl⟩ := Prod.mk.inj (Except.ok.inj h)
        exact ⟨List.nil_subset _, List.Subset.refl _⟩

theorem texts_ofLines (ls : List SourceLine) :
    (ofLines ls).flatMap texts ⊆ ls.map (·.text) := by
  fun_induction ofLines ls with
  | case1 => exact List.nil_subset _
  | case2 => exact List.nil_subset _
  | case3 => exact List.nil_subset _
  | case4 line rest hflush hcondition hheader ih =>
      rw [List.flatMap_cons, List.map_cons]
      exact List.cons_subset_cons line.text ih
  | case5 => exact List.nil_subset _
  | case6 => exact List.nil_subset _
  | case7 line rest hflush condition hcondition body rest₁ hblock orelse rest₂ helse ih =>
      obtain ⟨hbody, hrest₁⟩ := block_subset hblock
      obtain ⟨horelse, hrest₂⟩ := elseBlock_subset helse
      rw [List.flatMap_cons, List.map_cons]
      apply List.subset_cons_of_subset
      refine List.append_subset.mpr ⟨List.append_subset.mpr ⟨hbody, ?_⟩, ?_⟩
      · exact List.Subset.trans horelse (List.map_subset _ hrest₁)
      · exact List.Subset.trans ih (List.map_subset _ (List.Subset.trans hrest₂ hrest₁))

end Item

theorem SourceLine.texts_readFrom (number : Nat) (raws : List (List Char)) :
    (readFrom number raws).map (·.text) ⊆ raws.map Text.trim := by
  induction raws generalizing number with
  | nil => exact List.Subset.refl _
  | cons raw raws ih =>
      by_cases hgap : IsGap raw
      · rw [readFrom_gap hgap, List.map_cons]
        exact List.subset_cons_of_subset _ (ih (number + 1))
      · rw [readFrom_line hgap, List.map_cons, List.map_cons]
        exact List.cons_subset_cons _ (ih (number + 1))

namespace Step

theorem texts_statements (texts : List (List Char)) :
    (statements texts).flatMap Step.texts = texts := by
  induction texts with
  | nil => rfl
  | cons text texts ih => exact congrArg (text :: ·) ih

theorem Opens.texts_subset {step : Step} {more : List Step} (h : step.Opens more) :
    more.flatMap texts ⊆ step.texts := by
  cases h with
  | nothing => exact List.nil_subset _
  | body condition body orelse =>
      rw [texts_statements]
      exact List.subset_append_left body orelse
  | orelse condition body orelse =>
      rw [texts_statements]
      exact List.subset_append_right body orelse

end Step

theorem texts_runningSteps (code : String) :
    (runningSteps code).flatMap Step.texts ⊆ (Text.lines code.toList).map Text.trim := by
  rw [runningSteps, List.flatMap_map]
  exact List.Subset.trans (Item.texts_ofLines _) (SourceLine.texts_readFrom 1 _)

/-- On the way to a later place the scope only grows, and the statements that are still to come
were there before. -/
theorem Completes.keeps {start place : Place} {calls : List Call}
    (h : Completes start calls place) : Extends start.scope place.scope ∧
      place.steps.flatMap Step.texts ⊆ start.steps.flatMap Step.texts := by
  induction h with
  | refl place => exact ⟨.refl _, List.Subset.refl _⟩
  | @step last value step more steps scope scope' answers answers' calls calls' place hstep h ih =>
      obtain ⟨hmore, htexts⟩ := ih
      have hextends := (step.widens_perform last scope).of_freely hstep
      refine ⟨hextends.trans hmore, List.Subset.trans htexts ?_⟩
      rw [List.flatMap_append, List.flatMap_cons]
      refine List.append_subset.mpr ⟨?_, List.subset_append_right _ _⟩
      exact List.Subset.trans (Step.opens_of_freely hstep).texts_subset
        (List.subset_append_left _ _)

end ScriptConsole.Script
