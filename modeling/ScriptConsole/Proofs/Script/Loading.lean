import ScriptConsole.Proofs.Script.Growth

/-!
Loading and importing. The loader reads the import lines of a text before the text runs, and they
are read again as statements when their turn comes; what the loader finds and what the statements
look for is the same.
-/

namespace ScriptConsole.Script

open Dialogue (Call)

/-! ### What is loaded before a text runs -/

/-- The modules `fresh` were loaded, each of them once: those among `modules` that were lacking. -/
structure Loads (modules fresh : List String) (before after : Scope) : Prop where
  nodup : fresh.Nodup
  mem_iff : ∀ module, module ∈ fresh ↔ module ∈ modules ∧ before.lacks module = true
  isLoaded_iff : ∀ module, after.isLoaded module = true ↔
    before.isLoaded module = true ∨ module ∈ fresh

theorem Scope.lacks_load (scope : Scope) (module other : String) :
    (scope.load module).lacks other = true ↔ scope.lacks other = true ∧ other ≠ module := by
  rw [lacks_iff, lacks_iff, available_load, Bool.eq_false_iff, Bool.eq_false_iff, Ne, Ne,
    isLoaded_load, not_or, and_right_comm]

namespace Loads

variable {module : String} {modules fresh : List String} {before after : Scope}

theorem cons_fresh (h : Loads modules fresh (before.load module) after)
    (hlacks : before.lacks module = true) :
    Loads (module :: modules) (module :: fresh) before after where
  nodup := by
    refine List.nodup_cons.mpr ⟨?_, h.nodup⟩
    intro hmem
    have hagain := (before.lacks_load module module).mp ((h.mem_iff module).mp hmem).2
    exact hagain.2 rfl
  mem_iff other := by
    rw [List.mem_cons, List.mem_cons, h.mem_iff, Scope.lacks_load]
    constructor
    · rintro (rfl | ⟨hmem, hother, -⟩)
      · exact ⟨.inl rfl, hlacks⟩
      · exact ⟨.inr hmem, hother⟩
    · rintro ⟨hmem, hother⟩
      by_cases heq : other = module
      · exact .inl heq
      · exact .inr ⟨hmem.resolve_left heq, hother, heq⟩
  isLoaded_iff other := by
    rw [h.isLoaded_iff, Scope.isLoaded_load, List.mem_cons, or_assoc]

theorem cons_known (h : Loads modules fresh before after) (hlacks : ¬ before.lacks module = true) :
    Loads (module :: modules) fresh before after where
  nodup := h.nodup
  mem_iff other := by
    rw [List.mem_cons, h.mem_iff]
    constructor
    · rintro ⟨hmem, hother⟩
      exact ⟨.inr hmem, hother⟩
    · rintro ⟨rfl | hmem, hother⟩
      · exact absurd hother hlacks
      · exact ⟨hmem, hother⟩
  isLoaded_iff := h.isLoaded_iff

end Loads

theorem exists_loads (modules : List String) (scope : Scope)
    (answers : List (Except HostError String)) :
    ∃ fresh scope', ((loadModules modules).run scope).freely answers =
        (fresh.map notice, (.ok (), scope'), ⟨answers, none⟩) ∧
      Loads modules fresh scope scope' := by
  induction modules generalizing scope with
  | nil =>
      refine ⟨[], scope, rfl, List.nodup_nil, ?_, ?_⟩
      · simp
      · simp
  | cons module modules ih =>
      rw [loadModules_cons, run_bind, loadModules_singleton]
      split
      · next hlacks =>
        obtain ⟨fresh, scope', hrun, hloads⟩ := ih (scope.load module)
        refine ⟨module :: fresh, scope', ?_, hloads.cons_fresh hlacks⟩
        rw [(Dialogue.Sends.stdout _ _).bind _ |>.freely]
        exact congrArg (fun run => (notice module :: run.1, run.2)) hrun
      · next hlacks =>
        obtain ⟨fresh, scope', hrun, hloads⟩ := ih scope
        exact ⟨fresh, scope', hrun, hloads.cons_known hlacks⟩

/-! ### Imports -/

/-- The module can be loaded, or needs no loading. -/
def Importable (available : List String) (module : String) : Prop :=
  module ∈ available ∨ module = "sys"

section

variable {module : String} {modules : List String} {scope : Scope}

theorem Scope.imports_load (himports : scope.imports module = true) (other : String) :
    (scope.load module).imports other = scope.imports other := by
  rw [Bool.eq_iff_iff, imports_iff, imports_iff, isLoaded_load, or_right_comm]
  constructor
  · rintro (hother | rfl)
    · exact hother
    · exact imports_iff.mp himports
  · exact .inl

theorem importModules_all (h : ∀ module ∈ modules, scope.imports module = true) :
    ∃ scope', (importModules modules).run scope = .done (.ok (), scope') := by
  induction modules generalizing scope with
  | nil => exact ⟨scope, rfl⟩
  | cons module modules ih =>
      obtain ⟨hfirst, hmore⟩ := List.forall_mem_cons.mp h
      rw [importModules_cons, if_pos hfirst]
      apply ih
      intro other hother
      rw [Scope.imports_load hfirst]
      exact hmore other hother

theorem importModules_missing {good more : List String}
    (hgood : ∀ module ∈ good, scope.imports module = true)
    (hmissing : ¬ scope.imports module = true) :
    ∃ scope', (importModules (good ++ module :: more)).run scope =
      .done (.error (.missingModule module), scope') := by
  induction good generalizing scope with
  | nil =>
      rw [List.nil_append, importModules_cons, if_neg hmissing]
      exact ⟨scope, rfl⟩
  | cons first good ih =>
      obtain ⟨hfirst, hgood⟩ := List.forall_mem_cons.mp hgood
      rw [List.cons_append, importModules_cons, if_pos hfirst]
      apply ih
      · intro other hother
        rw [Scope.imports_load hfirst]
        exact hgood other hother
      · rw [Scope.imports_load hfirst]
        exact hmissing

end

/-- However the text is answered when it is run from this scope on, an import statement that is
executed goes well if all its modules can be imported; otherwise the run ends there, with an
exception for the first module that cannot. -/
def ImportsSettled (available : List String) (code : String) (scope : Scope) : Prop :=
  ∀ answers calls place text steps,
    Completes ⟨none, runningSteps code, scope, answers⟩ calls place →
    place.steps = .item (.simple text) :: steps → isImport text = true →
    ((∀ module ∈ importedModules text, Importable available module) →
      ∃ scope', Completes place [] ⟨none, steps, scope', place.answers⟩) ∧
    ∀ good module more, importedModules text = good ++ module :: more →
      (∀ other ∈ good, Importable available other) → ¬ Importable available module →
      ∃ scope', ((interpreter available).run code scope).freely answers =
        (calls, (.raised ⟨"ModuleNotFoundError", "No module named '" ++ module ++ "'"⟩, scope'),
          ⟨place.answers, none⟩)

theorem execute_import {text : List Char} {scope scope' : Scope} {outcome : Except Fault Unit}
    (himport : isImport text = true)
    (hrun : (importModules (importedModules text)).run scope = .done (outcome, scope')) :
    (execute text).run scope = .done (outcome.map fun _ => none, scope') := by
  rw [execute_of_isImport himport, run_bind, hrun]
  cases outcome <;> rfl

/-- A text that was loaded finds the modules that can be found. -/
theorem importsSettled {available : List String} {code : String} {scope : Scope}
    (hbounded : ∀ module, scope.isLoaded module = true → Importable available module)
    (havailable : scope.available = available)
    (hloaded : ∀ module ∈ namedModules code, module ∈ available → scope.isLoaded module = true) :
    ImportsSettled available code scope := by
  intro answers calls place text steps hreached hsteps himport
  obtain ⟨hextends, htexts⟩ := hreached.keeps
  -- Every statement of the run is a line of the text, and all lines were looked at for loading.
  have hnamed : importedModules text ⊆ namedModules code := by
    have htext : text ∈ place.steps.flatMap Step.texts := by
      rw [hsteps]
      exact List.mem_cons_self
    obtain ⟨raw, hraw, rfl⟩ := List.mem_map.mp (texts_runningSteps code (htexts htext))
    exact fun module hmodule => List.mem_flatMap.mpr ⟨raw, hraw, hmodule⟩
  -- What was loaded stays so, and nothing else comes to be loaded during the run.
  have hagree : ∀ module ∈ importedModules text,
      (place.scope.imports module = true ↔ Importable available module) := by
    intro module hmodule
    rw [Scope.imports_iff]
    constructor
    · rintro (hmodule | hbuiltin)
      · rcases hextends.within module hmodule with hbefore | hmember | hbuiltin
        · exact hbounded module hbefore
        · exact .inl (havailable ▸ hmember)
        · exact .inr (List.mem_singleton.mp hbuiltin)
      · exact .inr (List.mem_singleton.mp hbuiltin)
    · rintro (hmember | rfl)
      · exact .inl (hextends.keeps module (hloaded module (hnamed hmodule) hmember))
      · exact .inr (List.mem_singleton.mpr rfl)
  obtain ⟨last, _, placeScope, placeAnswers⟩ := place
  subst hsteps
  constructor
  · intro hall
    obtain ⟨scope', hrun⟩ := importModules_all fun module hmodule =>
      (hagree module hmodule).mpr (hall module hmodule)
    have hstep : (((Step.item (.simple text)).perform last).run placeScope).freely placeAnswers =
        ([], (.ok (none, []), scope'), ⟨placeAnswers, none⟩) := by
      rw [Step.perform, run_bind, execute_import himport hrun]
      rfl
    exact ⟨scope', .step hstep (.refl _)⟩
  · intro good module more hsplit hgood hmissing
    rw [hsplit] at hagree
    obtain ⟨scope', hrun⟩ : ∃ scope', (importModules (good ++ module :: more)).run placeScope =
        .done (.error (.missingModule module), scope') := by
      apply importModules_missing
      · intro other hother
        exact (hagree other (List.mem_append_left _ hother)).mpr (hgood other hother)
      · exact fun himports => hmissing ((hagree module List.mem_append_cons_self).mp himports)
    rw [← hsplit] at hrun
    refine ⟨scope', ?_⟩
    have hends : (Place.mk last (.item (.simple text) :: steps) placeScope placeAnswers).rest =
        .done (.error (.missingModule module), scope') := by
      rw [Place.rest_cons, Step.perform, run_bind, execute_import himport hrun]
      rfl
    rw [run_eq]
    exact Dialogue.freely_bind_done (hreached.freely_of_done hends) rfl

/-! ### Interpreters from their boot on -/

/-- An interpreter on which texts are loaded and run, with hosts that let every write through, in
any order. The calls are those that were made while texts were loaded. -/
inductive Lives (available : List String) (config : BootConfig) : List Call → Scope → Prop where
  | boot {scope : Scope} (hboot : (interpreter available).boot config = .ready scope) :
      Lives available config [] scope
  | load {calls more : List Call} {scope scope' : Scope} {ending : Ending Unit}
      {host : Dialogue.ListHost} (h : Lives available config calls scope) (code : String)
      (answers : List (Except HostError String))
      (hload : ((interpreter available).load code scope).freely answers =
        (more, (ending, scope'), host)) : Lives available config (calls ++ more) scope'
  | run {calls more : List Call} {scope scope' : Scope} {ending : Ending (Option String)}
      {host : Dialogue.ListHost} (h : Lives available config calls scope) (code : String)
      (answers : List (Except HostError String))
      (hrun : ((interpreter available).run code scope).freely answers =
        (more, (ending, scope'), host)) : Lives available config calls scope'

theorem preload_extends {packages : List String} {scope scope' : Scope}
    (h : preload scope packages = .ok scope') : Extends scope scope' := by
  induction packages generalizing scope with
  | nil =>
      cases h
      exact .refl _
  | cons package packages ih =>
      rw [preload] at h
      split at h
      · next hmember =>
        exact (Extends.load (.inr (.inl (List.contains_iff_mem.mp hmember)))).trans (ih h)
      · cases h

theorem Widens.perform {α : Type} {script : Running α} (h : Widens script) {scope scope' : Scope}
    {answers : List (Except HostError String)} {calls : List Call} {ending : Ending α}
    {host : Dialogue.ListHost}
    (hrun : (perform script scope).freely answers = (calls, (ending, scope'), host)) :
    Extends scope scope' := by
  have hends : (Script.perform script scope).Ends fun ended => Extends scope ended.2 := by
    refine (h scope).bind fun ended hended => ?_
    obtain ⟨outcome, scope''⟩ := ended
    cases outcome with
    | ok a => exact hended
    | error fault => exact hended
  exact hends.of_freely hrun

theorem run_extends {available : List String} {code : String} {scope scope' : Scope}
    {answers : List (Except HostError String)} {calls : List Call}
    {ending : Ending (Option String)} {host : Dialogue.ListHost}
    (hrun : ((interpreter available).run code scope).freely answers =
      (calls, (ending, scope'), host)) : Extends scope scope' :=
  Widens.perform ((Item.widens_runAll _ _).bind fun _ => widens_pure _) hrun

theorem exists_load (available : List String) (code : String) (scope : Scope)
    (answers : List (Except HostError String)) :
    ∃ fresh scope', ((interpreter available).load code scope).freely answers =
        (fresh.map notice, (.ok (), scope'), ⟨answers, none⟩) ∧
      Loads (namedModules code) fresh scope scope' := by
  obtain ⟨fresh, scope', hrun, hloads⟩ := exists_loads (namedModules code) scope answers
  exact ⟨fresh, scope', Dialogue.freely_bind_done hrun rfl, hloads⟩

namespace Lives

variable {available : List String} {config : BootConfig} {calls : List Call} {scope : Scope}

theorem extends_boot (h : Lives available config calls scope) :
    Extends ⟨[], available, []⟩ scope := by
  induction h with
  | boot hboot =>
      simp only [interpreter, Script.boot] at hboot
      split at hboot
      · next scope' hpreload =>
        cases hboot
        exact preload_extends hpreload
      · cases hboot
  | load _ code answers hload ih => exact ih.trans ((widens_loadModules _).perform hload)
  | run _ code answers hrun ih => exact ih.trans (run_extends hrun)

theorem importable (h : Lives available config calls scope) :
    ∀ module, scope.isLoaded module = true → Importable available module := by
  intro module hloaded
  rcases h.extends_boot.within module hloaded with hnone | hmember | hbuiltin
  · cases hnone
  · exact .inl hmember
  · exact .inr (List.mem_singleton.mp hbuiltin)

/-- No notice is given twice, since what it was given for stays loaded. -/
theorem exists_modules (h : Lives available config calls scope) :
    ∃ modules : List String, calls = modules.map notice ∧ modules.Nodup ∧
      ∀ module ∈ modules, scope.isLoaded module = true := by
  induction h with
  | boot => exact ⟨[], rfl, List.nodup_nil, by rintro _ ⟨⟩⟩
  | @load calls more scope scope' ending host _ code answers hload ih =>
      obtain ⟨modules, rfl, hnodup, hloaded⟩ := ih
      obtain ⟨fresh, after, hruns, hloads⟩ := exists_load available code scope answers
      cases hload.symm.trans hruns
      refine ⟨modules ++ fresh, List.map_append.symm, ?_, ?_⟩
      · refine List.nodup_append.mpr ⟨hnodup, hloads.nodup, ?_⟩
        rintro module hmodule _ hfresh rfl
        have hlacks := Scope.lacks_iff.mp ((hloads.mem_iff module).mp hfresh).2
        rw [hloaded module hmodule] at hlacks
        cases hlacks.1
      · intro module hmodule
        rw [hloads.isLoaded_iff]
        exact (List.mem_append.mp hmodule).imp_left (hloaded module)
  | @run calls more scope scope' ending host _ code answers hrun ih =>
      obtain ⟨modules, rfl, hnodup, hloaded⟩ := ih
      exact ⟨modules, rfl, hnodup, fun module hmodule =>
        (run_extends hrun).keeps module (hloaded module hmodule)⟩

end Lives

/-- Loading and importing agree. On an interpreter that has booted, whatever was loaded and run on
it so far, only what can be imported at all is loaded, and the notice of a module has been given
once at most. To load a text gives the notice of each module that its import lines name and that
can be loaded, unless it is loaded already, and from then on it is loaded. In a run of the text
that was loaded, the import statements fail at modules that can neither be loaded nor need no
loading, and at no others. -/
theorem loading_and_importing_agree {available : List String} {config : BootConfig}
    {calls : List Call} {scope : Scope} (h : Lives available config calls scope) :
    (∀ module, scope.isLoaded module = true → Importable available module) ∧
    (∃ modules : List String, calls = modules.map notice ∧ modules.Nodup) ∧
    ∀ code answers, ∃ (fresh : List String) (scope' : Scope),
      ((interpreter available).load code scope).freely answers =
        (fresh.map notice, (.ok (), scope'), ⟨answers, none⟩) ∧
      fresh.Nodup ∧
      (∀ module, module ∈ fresh ↔
        module ∈ namedModules code ∧ module ∈ available ∧ scope.isLoaded module = false) ∧
      (∀ module, scope'.isLoaded module = true ↔
        scope.isLoaded module = true ∨ module ∈ fresh) ∧
      ImportsSettled available code scope' := by
  have havailable : scope.available = available := h.extends_boot.available
  refine ⟨h.importable, ?_, fun code answers => ?_⟩
  · obtain ⟨modules, hcalls, hnodup, -⟩ := h.exists_modules
    exact ⟨modules, hcalls, hnodup⟩
  · obtain ⟨fresh, scope', hload, hloads⟩ := exists_load available code scope answers
    have hfresh : ∀ module, module ∈ fresh ↔
        module ∈ namedModules code ∧ module ∈ available ∧ scope.isLoaded module = false := by
      intro module
      rw [hloads.mem_iff, Scope.lacks_iff, havailable, and_comm (b := module ∈ available)]
    have hlater : Lives available config (calls ++ fresh.map notice) scope' :=
      .load h code answers hload
    refine ⟨fresh, scope', hload, hloads.nodup, hfresh, hloads.isLoaded_iff, ?_⟩
    refine importsSettled hlater.importable hlater.extends_boot.available ?_
    intro module hnamed hmember
    rw [hloads.isLoaded_iff, hfresh]
    cases hloaded : scope.isLoaded module with
    | true => exact .inl rfl
    | false => exact .inr ⟨hnamed, hmember, rfl⟩

theorem loading_and_importing_agree_of_boot :
    Lives ["json"] ⟨"", []⟩ [] ⟨[], ["json"], []⟩ ∧
    ∃ fresh scope scope', ((interpreter ["json"]).load "import json, os" ⟨[], ["json"], []⟩).freely
        [] = (fresh, (.ok (), scope), ⟨[], none⟩) ∧
      notice "json" ∈ fresh ∧
      ((interpreter ["json"]).run "import json, os" scope).freely [] =
        ([], (.raised ⟨"ModuleNotFoundError", "No module named 'os'"⟩, scope'), ⟨[], none⟩) := by
  have hlives : Lives ["json"] ⟨"", []⟩ [] ⟨[], ["json"], []⟩ := .boot rfl
  obtain ⟨-, -, hloads⟩ := loading_and_importing_agree hlives
  obtain ⟨fresh, scope, hload, -, hfresh, -, hsettled⟩ := hloads "import json, os" []
  have hsteps : runningSteps "import json, os" =
      [.item (.simple "import json, os".toList)] := by
    have hlines : SourceLine.ofText "import json, os" =
        [⟨1, "import json, os".toList, false⟩] := by decide +kernel
    rw [runningSteps, hlines, Item.ofLines_simple rfl (by decide), Item.ofLines]
    rfl
  have hnamed : importedModules "import json, os".toList = ["json"] ++ "os" :: [] := by
    decide +kernel
  obtain ⟨-, hfails⟩ := hsettled [] [] _ _ [] (.refl _) hsteps (by decide +kernel)
  have hjson : ∀ module ∈ ["json"], Importable ["json"] module := fun _ => .inl
  have hos : ¬ Importable ["json"] "os" := by
    rintro (hmember | hsys)
    · exact absurd (List.mem_singleton.mp hmember) (by decide)
    · exact absurd hsys (by decide)
  obtain ⟨scope', hrun⟩ := hfails ["json"] "os" [] hnamed hjson hos
  refine ⟨hlives, fresh.map notice, scope, scope', hload, ?_, hrun⟩
  apply List.mem_map_of_mem
  exact (hfresh "json").mpr ⟨by decide +kernel, List.mem_cons_self, rfl⟩

end ScriptConsole.Script
