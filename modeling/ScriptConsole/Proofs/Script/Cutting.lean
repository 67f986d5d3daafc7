import ScriptConsole.Proofs.Script.Steps

/-!
Scripts that lose their host. Wherever in a text a write fails, in the notice of a module, among
the arguments of a call, in a condition or in a block, the text ends there: nothing more is asked
of the host, and of the scope there is what the statements before have made of it.
-/

namespace ScriptConsole.Script

open Dialogue (Call)

/-! ### Expressions that lose their host -/

/-- The action gives up where a write fails. -/
def GivesUp {α : Type} (action : Action α) : Prop :=
  action.run.StopsWith (.error (.host .disconnected))

section GivesUp

variable {α β : Type}

theorem givesUp_pass (result : Except Fault α) : GivesUp (Expression.pass result) :=
  .done result

theorem givesUp_pure (a : α) : GivesUp (pure a) :=
  Dialogue.StopsWith.done (Except.ok a)

theorem givesUp_throw (fault : Fault) : GivesUp (throw fault : Action α) :=
  Dialogue.StopsWith.done (Except.error fault)

theorem givesUp_say (text : String) : GivesUp (say text) :=
  .write (.stdout text ofHost) rfl (.done _)

theorem givesUp_complain (text : String) : GivesUp (complain text) :=
  .write (.stderr text ofHost) rfl (.done _)

theorem givesUp_ask (prompt : Option String) : GivesUp (ask prompt) := by
  refine .stdin fun answer => ?_
  cases answer with
  | ok text => exact .done _
  | error cause => exact .done _

theorem GivesUp.bind {action : Action α} (h : GivesUp action) {f : α → Action β}
    (hnext : ∀ a, GivesUp (f a)) : GivesUp (action >>= f) := by
  refine Dialogue.StopsWith.bind h rfl fun result => ?_
  cases result with
  | ok a => exact hnext a
  | error fault => exact .done _

theorem givesUp_ite {p : Prop} [Decidable p] {first second : Action α} (hfirst : GivesUp first)
    (hsecond : GivesUp second) : GivesUp (if p then first else second) :=
  iteInduction (fun _ => hfirst) fun _ => hsecond

end GivesUp

namespace Expression

variable (scope : Scope)

theorem call_givesUp (name : String) (arguments : List Value) :
    GivesUp (call scope name arguments) := by
  rw [call]
  refine givesUp_ite ((givesUp_say _).bind fun _ => givesUp_pure _) ?_
  refine givesUp_ite ((givesUp_pass _).bind fun _ => (givesUp_ask _).bind fun _ =>
    givesUp_pure _) ?_
  refine givesUp_ite ((givesUp_pass _).bind fun _ => givesUp_pure _) ?_
  refine givesUp_ite ((givesUp_pass _).bind fun _ => givesUp_pure _) ?_
  refine givesUp_ite (givesUp_pass _) ?_
  refine givesUp_ite (givesUp_pass _) ?_
  refine givesUp_ite ((givesUp_pass _).bind fun _ => (givesUp_say _).bind fun _ =>
    givesUp_pure _) ?_
  refine givesUp_ite ((givesUp_pass _).bind fun _ => (givesUp_complain _).bind fun _ =>
    givesUp_pure _) ?_
  refine givesUp_ite ((givesUp_pass _).bind fun _ => givesUp_pure _) ?_
  exact (givesUp_pass _).bind fun _ => givesUp_throw _

mutual

theorem comparison_givesUp (ts : List Token) : GivesUp (comparison scope ts) := by
  rw [comparison]
  apply (sum_givesUp ts).bind
  rintro ⟨left, rest, h⟩
  dsimp only
  split
  · next rest h =>
    have hshorter : rest.length < ts.length := Nat.lt_of_succ_lt h
    exact (sum_givesUp rest).bind fun _ => givesUp_pure _
  · next rest h =>
    have hshorter : rest.length < ts.length := Nat.lt_of_succ_lt h
    exact (sum_givesUp rest).bind fun _ => givesUp_pure _
  · exact givesUp_pure _
termination_by (ts.length, 3)

theorem sum_givesUp (ts : List Token) : GivesUp (sum scope ts) := by
  rw [sum]
  apply (term_givesUp ts).bind
  rintro ⟨value, rest, hshorter⟩
  exact (sumFrom_givesUp value rest).bind fun _ => givesUp_pure _
termination_by (ts.length, 2)

theorem sumFrom_givesUp (value : Value) (ts : List Token) :
    GivesUp (sumFrom scope value ts) := by
  rw [sumFrom.eq_def]
  split
  · next ts =>
    apply (term_givesUp ts).bind
    rintro ⟨right, rest, h⟩
    have hshorter : rest.length < (Token.plus :: ts).length := Nat.lt_succ_of_lt h
    apply (givesUp_pass _).bind
    intro value
    exact (sumFrom_givesUp value rest).bind fun _ => givesUp_pure _
  · exact givesUp_pure _
termination_by (ts.length, 1)

theorem term_givesUp (ts : List Token) : GivesUp (term scope ts) := by
  rw [term.eq_def]
  split
  · exact givesUp_pure _
  · exact givesUp_pure _
  · next ts =>
    apply (comparison_givesUp ts).bind
    rintro ⟨value, rest, h⟩
    dsimp only
    split
    · exact givesUp_pure _
    · exact givesUp_throw _
  · next name ts =>
    apply (arguments_givesUp ts).bind
    rintro ⟨values, rest, h⟩
    exact (call_givesUp scope name values).bind fun _ => givesUp_pure _
  · exact (givesUp_pass _).bind fun _ => givesUp_pure _
  · exact givesUp_throw _
termination_by (ts.length, 1)

theorem arguments_givesUp (ts : List Token) : GivesUp (arguments scope ts) := by
  rw [arguments.eq_def]
  split
  · exact givesUp_pure _
  · exact argumentsFrom_givesUp ts
termination_by (ts.length, 5)

theorem argumentsFrom_givesUp (ts : List Token) : GivesUp (argumentsFrom scope ts) := by
  rw [argumentsFrom]
  apply (comparison_givesUp ts).bind
  rintro ⟨value, rest, h⟩
  dsimp only
  split
  · next rest h =>
    have hshorter : rest.length < ts.length := Nat.lt_of_succ_lt h
    exact (argumentsFrom_givesUp rest).bind fun _ => givesUp_pure _
  · exact givesUp_pure _
  · exact givesUp_throw _
termination_by (ts.length, 4)

end

theorem evaluate_givesUp (ts : List Token) : GivesUp (evaluate scope ts) := by
  rw [evaluate]
  split
  · exact givesUp_throw _
  · apply (comparison_givesUp scope ts).bind
    rintro ⟨value, rest, h⟩
    dsimp only
    split
    · exact givesUp_pure _
    · exact givesUp_throw _

end Expression

/-! ### Steps that lose their host -/

/-- What comes of a piece of a text whose host is lost before the piece has changed the scope. -/
def lostIn {α : Type} (scope : Scope) : Except Fault α × Scope :=
  (.error (.host .disconnected), scope)

variable {α β : Type} {scope : Scope}

theorem GivesUp.observe_bind {action : Scope → Action α} (h : GivesUp (action scope))
    {f : α → Running β} (hnext : ∀ a, ((f a).run scope).StopsWith (lostIn scope)) :
    ((observe action >>= f).run scope).StopsWith (lostIn scope) := by
  have hrun : (observe action >>= f).run scope =
      (action scope).run.bind fun result => goOn (fun a scope => (f a).run scope)
        (result, scope) := by
    rw [run_bind]
    exact Dialogue.bind_assoc _ _ _
  rw [hrun]
  refine Dialogue.StopsWith.bind h rfl fun result => ?_
  cases result with
  | ok a => exact hnext a
  | error fault => exact .done _

theorem execute_stopsWith (text : List Char) (scope : Scope) :
    ((execute text).run scope).StopsWith (lostIn scope) := by
  rw [execute]
  split
  · exact .done _
  · split
    · obtain ⟨⟨outcome, scope'⟩, hended⟩ := exists_importModules (importedModules text) scope
      rw [run_bind, hended]
      cases outcome with
      | ok _ => exact .done _
      | error fault => exact .done _
    · apply (givesUp_pass _).observe_bind
      intro tokens
      split
      · apply (Expression.evaluate_givesUp scope _).observe_bind
        intro value
        split
        · exact .done _
        · exact .done _
      · apply (Expression.evaluate_givesUp scope _).observe_bind
        intro value
        exact .done _
      · apply (Expression.evaluate_givesUp scope _).observe_bind
        intro value
        split
        · exact .done _
        · exact .done _

theorem Step.perform_stopsWith (last : Option Value) (step : Step) (scope : Scope) :
    ((step.perform last).run scope).StopsWith (lostIn scope) := by
  rcases step with module | text | ⟨condition, body, orelse⟩ | fault
  · rw [perform, run_bind, loadModules_singleton]
    split
    · exact .write (.stdout _ _) rfl (.done _)
    · exact .done _
  · rw [perform, run_bind]
    refine (execute_stopsWith text scope).bind rfl fun ended => ?_
    obtain ⟨outcome, scope'⟩ := ended
    cases outcome with
    | ok value => exact .done _
    | error fault => exact .done _
  · apply GivesUp.observe_bind
    · exact (givesUp_pass _).bind fun tokens => Expression.evaluate_givesUp scope tokens
    · intro value
      exact .done _
  · exact .done _

/-! ### Texts that lose their host -/

/-- With the writes `before` let through and the write `call` lost, the text that begins at
`start` stops in the first step from this place on. -/
inductive StopsIn (start : Place) (before : List Call) (call : Call) (place : Place) : Prop where
  | intro {first second : List Call} {step : Step} {steps : List Step}
      (hbefore : before = first ++ second) (hfirst : Completes start first place)
      (hsteps : place.steps = step :: steps)
      (hsecond : second ++ [call] <+:
        (((step.perform place.last).run place.scope).freely place.answers).1)

theorem Place.exists_cutAt (start : Place) {n : Nat}
    (hmore : n < Dialogue.writes (start.rest.freely start.answers).1) :
    ∃ before call place, StopsIn start before call place ∧
      start.rest.CutAt start.answers n before call (lostIn place.scope) := by
  -- The statements of a block come in front of the rest, so the induction is on what all steps
  -- may come to.
  induction htotal : Step.total start.steps using Nat.strongRecOn generalizing start n with
  | ind total ih =>
  obtain ⟨last, steps, scope, answers⟩ := start
  cases steps with
  | nil => cases hmore
  | cons step steps =>
      obtain ⟨calls, ⟨outcome, scope'⟩, answers', hfirst⟩ :=
        ((step.perform last).run scope).exists_freely answers
      rw [Place.rest_cons] at hmore ⊢
      by_cases hcalls : n < Dialogue.writes calls
      · obtain ⟨before, call, hcut⟩ := (step.perform_stopsWith last scope).exists_cutAt
          (by rw [hfirst]; exact hcalls)
        exact ⟨before, call, _, .intro rfl (.refl _) rfl hcut.isPrefix, hcut.bind rfl⟩
      · have hfew : Dialogue.writes calls ≤ n := Nat.le_of_not_lt hcalls
        rw [Dialogue.freely_bind hfirst, Dialogue.writes_append] at hmore
        cases outcome with
        | error fault => exact absurd hmore (Nat.not_lt.mpr hfew)
        | ok opened =>
            obtain ⟨value, more⟩ := opened
            have hfewer : Step.total (more ++ steps) < total := by
              rw [← htotal, Step.total_append, Step.total]
              exact Nat.add_lt_add_right (Step.opens_of_freely hfirst).total_lt _
            obtain ⟨before, call, place, hstops, hcut⟩ := ih _ hfewer
              ⟨value, more ++ steps, scope', answers'⟩ (n := n - Dialogue.writes calls)
              (Nat.sub_lt_left_of_lt_add hfew hmore) rfl
            obtain ⟨hbefore, hreached, hsteps, hsecond⟩ := hstops
            refine ⟨calls ++ before, call, place, ?_, Dialogue.CutAt.after hfirst hfew hcut⟩
            refine .intro ?_ (.step hfirst hreached) hsteps hsecond
            rw [hbefore, List.append_assoc]

theorem StopsIn.not_isLoaded {start place : Place} {before : List Call} {call : Call}
    (h : StopsIn start before call place) {module : String} {steps : List Step}
    (hload : place.steps = .load module :: steps) :
    call = notice module ∧ place.scope.isLoaded module = false := by
  obtain ⟨-, -, hsteps, hsecond⟩ := h
  cases hload.symm.trans hsteps
  have hcall := hsecond.subset List.mem_concat_self
  rw [Step.freely_load] at hcall
  split at hcall
  · next hlacks => exact ⟨List.mem_singleton.mp hcall, (Scope.lacks_iff.mp hlacks).1⟩
  · cases hcall

/-- With a host that lets only some writes through, a text is loaded and run as with a host that
lets all of them through, if they are enough. Otherwise the next write is the last thing that is
asked of the host; the text ends with the exception of a lost host, and the scope is what the steps
before the one with this write have left. A module whose notice is lost is not loaded. -/
theorem lost_host_cuts_cleanly (available : List String) (code : String) (scope : Scope)
    (answers : List (Except HostError String)) (n : Nat) :
    let script := (interpreter available).loadAndRun code scope
    let whole := script.freely answers
    let cut := script.runWith ⟨answers, some n⟩
    (Dialogue.writes whole.1 ≤ n →
      cut.1 = whole.1 ∧ cut.2.1 = whole.2.1 ∧ script.attempts ⟨answers, some n⟩ = whole.1) ∧
    (n < Dialogue.writes whole.1 →
      ∃ before call after place,
        whole.1 = before ++ call :: after ∧ call.isWrite = true ∧ Dialogue.writes before = n ∧
        cut.1 = before ∧ script.attempts ⟨answers, some n⟩ = before ++ [call] ∧
        cut.2.1 = (.raised ⟨"SystemExit", "controller disconnected"⟩, place.scope) ∧
        StopsIn ⟨none, program code, scope, answers⟩ before call place ∧
        ∀ module steps, place.steps = .load module :: steps →
          call = notice module ∧ place.scope.isLoaded module = false) := by
  intro script whole cut
  let start : Place := ⟨none, program code, scope, answers⟩
  have hscript : script = conclude start.rest := loadAndRun_eq available code scope
  clear_value script
  constructor
  · intro hfew
    obtain ⟨hruns, hattempts⟩ := Dialogue.runWith_of_writes_le script hfew
    refine ⟨?_, ?_, hattempts⟩
    · exact congrArg (·.1) hruns
    · exact congrArg (·.2.1) hruns
  · intro hmore
    -- The calls are made by the steps; what concludes them asks nothing of the host.
    have hwhole : whole.1 = (start.rest.freely answers).1 := by
      obtain ⟨calls, ⟨outcome, left⟩, rest, hrest⟩ := start.rest.exists_freely answers
      have hruns : whole = (calls, (endingOf outcome, left), ⟨rest, none⟩) := by
        show script.freely answers = _
        rw [hscript]
        exact Dialogue.freely_bind_done hrest rfl
      rw [hruns, hrest]
    rw [hwhole] at hmore
    obtain ⟨before, call, place, hstops, hcut⟩ := start.exists_cutAt hmore
    obtain ⟨after, hafter⟩ := hcut.isPrefix
    have hends : script.CutAt answers n before call
        (.raised ⟨"SystemExit", "controller disconnected"⟩, place.scope) := by
      rw [hscript]
      exact hcut.bind rfl
    refine ⟨before, call, after, place, ?_, hends.isWrite, hends.writes, hends.calls,
      hends.attempts, hends.ended, hstops, fun module steps => hstops.not_isLoaded⟩
    rw [hwhole, ← hafter, List.append_assoc]
    rfl

theorem lost_host_cuts_cleanly_of_import :
    let script := (interpreter ["json"]).loadAndRun "import json" ⟨[], ["json"], []⟩
    (script.runWith ⟨[], some 1⟩).1 = [notice "json"] ∧
    (script.runWith ⟨[], some 0⟩).1 = [] ∧ script.attempts ⟨[], some 0⟩ = [notice "json"] ∧
    ∃ scope, (script.runWith ⟨[], some 0⟩).2.1 =
      (.raised ⟨"SystemExit", "controller disconnected"⟩, scope) := by
  intro script
  have hprogram : program "import json" =
      [.load "json", .item (.simple "import json".toList)] := by
    have hlines : SourceLine.ofText "import json" = [⟨1, "import json".toList, false⟩] := by
      decide +kernel
    have hmodules : namedModules "import json" = ["json"] := by decide +kernel
    rw [program, runningSteps, hmodules, hlines, Item.ofLines_simple rfl (by decide), Item.ofLines]
    rfl
  have hwhole : (script.freely []).1 = [notice "json"] := by
    show (((interpreter ["json"]).loadAndRun "import json" ⟨[], ["json"], []⟩).freely []).1 = _
    have hexecute : execute "import json".toList = do
        importModules ["json"]
        return none := by
      have hnamed : importedModules "import json".toList = ["json"] := by decide +kernel
      rw [execute_of_isImport (by decide +kernel), hnamed]
    rw [loadAndRun_eq, hprogram]
    simp only [runSteps, Step.run, Item.run, hexecute]
    rfl
  obtain ⟨henough, -⟩ := lost_host_cuts_cleanly ["json"] "import json" ⟨[], ["json"], []⟩ [] 1
  obtain ⟨-, hlost⟩ := lost_host_cuts_cleanly ["json"] "import json" ⟨[], ["json"], []⟩ [] 0
  obtain ⟨hcalls, -, -⟩ := henough (by rw [hwhole]; decide)
  obtain ⟨before, call, after, place, hsplit, -, hbefore, hcut, hattempts, hended, -, -⟩ :=
    hlost (by rw [hwhole]; decide)
  rw [hwhole] at hcalls hsplit
  cases before with
  | nil =>
      obtain ⟨rfl, -⟩ := List.cons.inj hsplit
      exact ⟨hcalls, hcut, hattempts, place.scope, hended⟩
  | cons first before =>
      have hmore : [] = before ++ call :: after := (List.cons.inj hsplit).2
      exact absurd hmore.symm (List.append_ne_nil_of_right_ne_nil before (List.cons_ne_nil _ _))

end ScriptConsole.Script
