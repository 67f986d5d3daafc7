import ScriptConsole.Proofs.Worker.Transport

/-!
What a worker posts, command by command. Each command that it comes to an end with has one reply,
which says whether it went well, and only a run posts anything before its reply.
-/

namespace ScriptConsole

/-- What a script writes or asks for. -/
def Event.IsEffect : Event → Prop
  | stdout _ | stderr _ | input _ _ => True
  | init _ _ | run _ _ _ => False

/-- The event replies to the command, and says whether it went well. -/
inductive Event.Replies : Command → Bool → Event → Prop where
  | init {setup : Setup} {success : Bool} {error : Option String} :
      Replies (.init setup) success (.init success error)
  | run {code : String} {success : Bool} {output error : Option String} :
      Replies (.run code) success (.run success output error)

/-- Nothing but effects was posted after these events. -/
def Event.EffectsAfter (taken posted : List Event) : Prop :=
  ∃ effects : List Event, (∀ event ∈ effects, event.IsEffect) ∧ posted = taken ++ effects

theorem Event.effectsAfter_refl (taken : List Event) : EffectsAfter taken taken :=
  ⟨[], List.forall_mem_nil _, (List.append_nil taken).symm⟩

theorem Event.IsEffect.after {event : Event} (heffect : event.IsEffect)
    {taken posted : List Event} (h : EffectsAfter (taken ++ [event]) posted) :
    EffectsAfter taken posted := by
  obtain ⟨effects, heffects, rfl⟩ := h
  refine ⟨event :: effects, List.forall_mem_cons.mpr ⟨heffect, heffects⟩, ?_⟩
  rw [List.append_assoc, List.singleton_append]

namespace Work

variable {ε α β : Type}

/-- The other end takes every event. -/
def Setting.receptive (setting : Setting ε) : Surroundings (List Event × ε) :=
  setting.direct fun _ _ => .ok ()

theorem ofDialogue_bind (bridge : Bridge) (dialogue : Dialogue α) (f : α → Dialogue β) :
    ofDialogue bridge (dialogue.bind f) =
      (ofDialogue bridge dialogue).bind fun left => ofDialogue left.2 (f left.1) := by
  induction dialogue generalizing bridge with
  | done a => rfl
  | stdout text next ih => exact congrArg (post _) (funext fun r => ih _ _)
  | stderr text next ih => exact congrArg (post _) (funext fun r => ih _ _)
  | stdin prompt next ih =>
      rw [Dialogue.bind, ofDialogue, ofDialogue, Work.bind]
      refine congrArg (post _) (funext fun answer => ?_)
      rcases answer with refusal | ⟨⟨⟩⟩
      · exact ih _ _
      · exact congrArg (await _ _) (funext fun line => funext fun bridge => ih _ _)

theorem Setting.receptive_views (setting : Setting ε) (taken : List Event) :
    setting.receptive.Views setting.receptive fun s => (taken ++ s.1, s.2) where
  post event s := by
    simp only [receptive, direct, List.append_assoc]
  await bridge request s := by
    simp only [receptive, direct, Option.map_map]
    rfl
  openBuffer url interval s := rfl

theorem ofDialogue_effectsAfter (setting : Setting ε) (bridge : Bridge) (dialogue : Dialogue α)
    (s : List Event × ε) :
    Event.EffectsAfter s.1 ((ofDialogue bridge dialogue).runTo setting.receptive s).2.1 := by
  induction dialogue generalizing bridge s with
  | done a => exact Event.effectsAfter_refl s.1
  | stdout text next ih =>
      have heffect : (Event.stdout text).IsEffect := trivial
      refine heffect.after ?_
      exact ih (.ok ()) bridge (s.1 ++ [.stdout text], setting.hear (.stdout text) s.2)
  | stderr text next ih =>
      have heffect : (Event.stderr text).IsEffect := trivial
      refine heffect.after ?_
      exact ih (.ok ()) bridge (s.1 ++ [.stderr text], setting.hear (.stderr text) s.2)
  | stdin prompt next ih =>
      have heffect : (bridge.request prompt).IsEffect := trivial
      apply heffect.after
      simp only [ofDialogue, runTo, Setting.receptive, Setting.direct]
      cases setting.await bridge.advance bridge.nextRequest
          (setting.hear (bridge.request prompt) s.2) with
      | none => exact Event.effectsAfter_refl _
      | some left => exact ih left.1.1 left.1.2 (s.1 ++ [bridge.request prompt], left.2)

end Work

/-- A command, with the worker and the surroundings that it meets. -/
structure Encounter (σ ε : Type) where
  worker : Worker σ
  command : Command
  state : ε

namespace Encounter

variable {σ ε : Type} (setting : Work.Setting ε) (enc : Encounter σ ε)

/-- How handling the command ends, if it does, and what is posted by then. -/
def handled : Option (Except TransportError Unit × Worker σ) × (List Event × ε) :=
  (enc.worker.handle enc.command).runTo setting.receptive ([], enc.state)

def events : List Event :=
  (enc.handled setting).2.1

/-- The buffer that the worker is told of could be opened. -/
def Opens (setup : Setup) : Prop :=
  ((Worker.openBuffer enc.worker.source setup).runTo setting.receptive ([], enc.state)).1 =
    some (.ok ())

/-- There is an interpreter, and loading what the text imports ends like this. -/
def LoadEnds (code : String) (ending : Ending Unit) (left : Live σ) (s : List Event × ε) : Prop :=
  ∃ live, enc.worker.live = some live ∧
    (Work.ofDialogue live.bridge (enc.worker.interpreter.load code live.state)).runTo
      setting.receptive ([], enc.state) = (some ((ending, left.state), left.bridge), s)

/-- The text was loaded, and running it ends like this. -/
def RunEnds (code : String) (ending : Ending (Option String)) (left : Live σ)
    (s : List Event × ε) : Prop :=
  ∃ loaded between, enc.LoadEnds setting code (.ok ()) loaded between ∧
    (Work.ofDialogue loaded.bridge (enc.worker.interpreter.run code loaded.state)).runTo
      setting.receptive between = (some ((ending, left.state), left.bridge), s)

def IsInit : Prop :=
  ∃ setup, enc.command = .init setup

/-- The buffer could be opened and the interpreter booted; or the text was loaded and run. -/
def Succeeds : Prop :=
  match enc.command with
  | .init setup => enc.Opens setting setup ∧
      ∃ state, enc.worker.interpreter.boot ⟨setup.baseUrl, setup.packages⟩ = .ready state
  | .run code => ∃ output left s, enc.RunEnds setting code (.ok output) left s

/-- The interpreter broke down over the text. -/
def Panics : Prop :=
  ∃ code message left s, enc.command = .run code ∧
    (enc.LoadEnds setting code (.panicked message) left s ∨
      enc.RunEnds setting code (.panicked message) left s)

/-- What a worker posts for a command that it comes to an end with. -/
structure Answered (effects : List Event) (reply : Event) : Prop where
  posted : enc.events setting = effects ++ [reply]
  onlyEffects : ∀ event ∈ effects, event.IsEffect
  replied : ∃ success, reply.Replies enc.command success ∧
    (success = true ↔ enc.Succeeds setting)
  /-- Booting posts nothing but the reply. -/
  ofInit : enc.IsInit → effects = []
  /-- Without an interpreter nothing is run. -/
  ofVacant : ¬ enc.IsInit → enc.worker.live = none →
    effects = [] ∧ reply = .runFailed Worker.notInitialized
  /-- What could not be loaded is not run. -/
  ofUnloaded : ∀ code ending left s, enc.command = .run code →
    enc.LoadEnds setting code ending left s → ending ≠ .ok () → effects = s.1

section Texts

variable {setting enc} {code : String} {live : Live σ}

/-- How loading and running a text ends. -/
def outcome (setting : Work.Setting ε) (enc : Encounter σ ε) (code : String) (live : Live σ) :
    Option ((Ending (Option String) × σ) × Bridge) × (List Event × ε) :=
  (Work.ofDialogue live.bridge (enc.worker.interpreter.loadAndRun code live.state)).runTo
    setting.receptive ([], enc.state)

theorem outcome_eq : enc.outcome setting code live =
    match (Work.ofDialogue live.bridge (enc.worker.interpreter.load code live.state)).runTo
      setting.receptive ([], enc.state) with
    | (some ((.ok (), state), bridge), s) =>
        (Work.ofDialogue bridge (enc.worker.interpreter.run code state)).runTo setting.receptive s
    | (some ((.raised error, state), bridge), s) => (some ((.raised error, state), bridge), s)
    | (some ((.panicked message, state), bridge), s) =>
        (some ((.panicked message, state), bridge), s)
    | (none, s) => (none, s) := by
  rw [outcome]
  refine (congrArg (fun work => Work.runTo setting.receptive work ([], enc.state))
    (Work.ofDialogue_bind _ _ _)).trans ((Work.runTo_bind _ _ _ _).trans ?_)
  obtain ⟨_ | ⟨⟨ending, state⟩, bridge⟩, s⟩ :=
    (Work.ofDialogue live.bridge (enc.worker.interpreter.load code live.state)).runTo
      setting.receptive ([], enc.state)
  · rfl
  · cases ending <;> rfl

/-- A text that ends was run to its end, or it could not be loaded. -/
theorem outcome_eq_iff (hlive : enc.worker.live = some live) (left : Live σ)
    {ending : Ending (Option String)} {s : List Event × ε} :
    enc.outcome setting code live = (some ((ending, left.state), left.bridge), s) ↔
      enc.RunEnds setting code ending left s ∨
      (∃ error, ending = .raised error ∧ enc.LoadEnds setting code (.raised error) left s) ∨
      ∃ message, ending = .panicked message ∧
        enc.LoadEnds setting code (.panicked message) left s := by
  have hloads {ending : Ending Unit} {left : Live σ} {s : List Event × ε} :
      enc.LoadEnds setting code ending left s ↔
        (Work.ofDialogue live.bridge (enc.worker.interpreter.load code live.state)).runTo
          setting.receptive ([], enc.state) = (some ((ending, left.state), left.bridge), s) := by
    constructor
    · rintro ⟨live', hlive', h⟩
      obtain rfl := Option.some.inj (hlive.symm.trans hlive')
      exact h
    · exact fun h => ⟨live, hlive, h⟩
  rw [outcome_eq]
  simp only [RunEnds, hloads]
  obtain ⟨_ | ⟨⟨loaded, state⟩, bridge⟩, between⟩ :=
    (Work.ofDialogue live.bridge (enc.worker.interpreter.load code live.state)).runTo
      setting.receptive ([], enc.state)
  · constructor
    · rintro ⟨⟩
    · rintro (⟨-, -, ⟨⟩, -⟩ | ⟨-, -, ⟨⟩⟩ | ⟨-, -, ⟨⟩⟩)
  · cases loaded with
    | ok done =>
        constructor
        · exact fun hrun => .inl ⟨⟨state, bridge⟩, between, rfl, hrun⟩
        · rintro (⟨⟨state, bridge⟩, between, ⟨⟩, hrun⟩ | ⟨-, -, ⟨⟩⟩ | ⟨-, -, ⟨⟩⟩)
          exact hrun
    | raised error =>
        obtain ⟨final, last⟩ := left
        constructor
        · rintro ⟨⟩
          exact .inr (.inl ⟨error, rfl, rfl⟩)
        · rintro (⟨-, -, ⟨⟩, -⟩ | ⟨error, rfl, ⟨⟩⟩ | ⟨-, -, ⟨⟩⟩)
          rfl
    | panicked message =>
        obtain ⟨final, last⟩ := left
        constructor
        · rintro ⟨⟩
          exact .inr (.inr ⟨message, rfl, rfl⟩)
        · rintro (⟨-, -, ⟨⟩, -⟩ | ⟨-, -, ⟨⟩⟩ | ⟨message, rfl, ⟨⟩⟩)
          rfl

theorem succeeds_run_iff (hcommand : enc.command = .run code)
    (hlive : enc.worker.live = some live) : enc.Succeeds setting ↔ ∃ output state bridge s,
      enc.outcome setting code live = (some ((.ok output, state), bridge), s) := by
  rw [Succeeds, hcommand]
  constructor
  · rintro ⟨output, left, s, hrun⟩
    exact ⟨output, left.state, left.bridge, s, (outcome_eq_iff hlive left).mpr (.inl hrun)⟩
  · rintro ⟨output, state, bridge, s, houtcome⟩
    rcases (outcome_eq_iff hlive ⟨state, bridge⟩).mp houtcome with
      hrun | ⟨-, ⟨⟩, -⟩ | ⟨-, ⟨⟩, -⟩
    exact ⟨output, ⟨state, bridge⟩, s, hrun⟩

theorem panics_iff (hcommand : enc.command = .run code) (hlive : enc.worker.live = some live) :
    enc.Panics setting ↔ ∃ message state bridge s,
      enc.outcome setting code live = (some ((.panicked message, state), bridge), s) := by
  constructor
  · rintro ⟨code, message, left, s, hcode, hends⟩
    obtain rfl := Command.run.inj (hcommand.symm.trans hcode)
    refine ⟨message, left.state, left.bridge, s, (outcome_eq_iff hlive left).mpr ?_⟩
    exact hends.symm.imp_right fun hload => .inr ⟨message, rfl, hload⟩
  · rintro ⟨message, state, bridge, s, houtcome⟩
    refine ⟨code, message, ⟨state, bridge⟩, s, hcommand, ?_⟩
    rcases (outcome_eq_iff hlive ⟨state, bridge⟩).mp houtcome with
      hrun | ⟨-, ⟨⟩, -⟩ | ⟨message, ⟨⟩, hload⟩
    · exact .inr hrun
    · exact .inl hload

theorem outcome_of_unloaded {ending : Ending Unit} {left : Live σ} {s : List Event × ε}
    (hlive : enc.worker.live = some live) (h : enc.LoadEnds setting code ending left s)
    (hending : ending ≠ .ok ()) : ((enc.outcome setting code live).2 = s) := by
  cases ending with
  | ok done => exact absurd rfl hending
  | raised error =>
      have houtcome := (outcome_eq_iff hlive _).mpr (.inr (.inl ⟨error, rfl, h⟩))
      rw [houtcome]
  | panicked message =>
      have houtcome := (outcome_eq_iff hlive _).mpr (.inr (.inr ⟨message, rfl, h⟩))
      rw [houtcome]

end Texts

theorem handled_eq : enc.handled setting =
    match (enc.worker.reply enc.command).runTo setting.receptive ([], enc.state) with
    | (some reply, s) => (some (.ok (), { enc.worker with live := reply.2 }),
        s.1 ++ [reply.1], setting.hear reply.1 s.2)
    | (none, s) => (none, s) := by
  have hreply : enc.worker.handle enc.command =
      (enc.worker.reply enc.command).bind enc.worker.conclude := by
    rw [Worker.handle_eq]
    cases enc.command <;> rfl
  rw [handled, hreply, Work.runTo_bind]
  obtain ⟨reply | reply, s⟩ :=
    (enc.worker.reply enc.command).runTo setting.receptive ([], enc.state) <;> rfl

/-- The worker is left with an interpreter as the command demands. -/
def Leaves (next : Worker σ) : Prop :=
  next.isInitialized = true ↔ (enc.IsInit ∧ enc.Succeeds setting) ∨
    (enc.worker.isInitialized = true ∧ ¬ enc.IsInit ∧ ¬ enc.Panics setting)

/-- The command came to an end, with one reply. -/
def Ends : Prop :=
  ∃ next s, enc.handled setting = (some (.ok (), next), s) ∧
    (∃ effects reply, enc.Answered setting effects reply) ∧ enc.Leaves setting next

/-- A run waits for a line that never comes. -/
def Waits : Prop :=
  (enc.handled setting).1 = none ∧ ¬ enc.IsInit ∧ ∀ event ∈ enc.events setting, event.IsEffect

theorem events_of_reply {reply : Event × Option (Live σ)} {s : List Event × ε}
    (hreply : (enc.worker.reply enc.command).runTo setting.receptive ([], enc.state) =
      (some reply, s)) :
    enc.handled setting = (some (.ok (), { enc.worker with live := reply.2 }),
        s.1 ++ [reply.1], setting.hear reply.1 s.2) := by
  rw [handled_eq, hreply]

theorem ends_of_init {setup : Setup} (hcommand : enc.command = .init setup) :
    enc.Ends setting := by
  have hinit : enc.IsInit := ⟨setup, hcommand⟩
  have hopen : ∃ answer e, (Worker.openBuffer enc.worker.source setup).runTo setting.receptive
      ([], enc.state) = (some answer, [], e) := by
    cases enc.worker.source with
    | attached => exact ⟨.ok (), enc.state, rfl⟩
    | byUrl => exact ⟨_, _, rfl⟩
  obtain ⟨answer, e, hopen⟩ := hopen
  have hsucceeds : enc.Succeeds setting ↔ answer = .ok () ∧
      ∃ state, enc.worker.interpreter.boot ⟨setup.baseUrl, setup.packages⟩ = .ready state := by
    simp only [Succeeds, hcommand, Opens, hopen, Option.some.injEq]
  -- However booting ends, there is one reply to it and nothing was said before.
  have hends {event : Event} {live : Option (Live σ)} {success : Bool}
      (hreply : (enc.worker.reply enc.command).runTo setting.receptive ([], enc.state) =
        (some (event, live), [], e)) (hevent : event.Replies enc.command success)
      (hsuccess : success = true ↔ enc.Succeeds setting) (hlive : live.isSome = success) :
      enc.Ends setting := by
    have hhandled := events_of_reply setting enc hreply
    refine ⟨_, _, hhandled, ⟨[], event, ?_⟩, ?_⟩
    · exact {
        posted := congrArg (·.2.1) hhandled
        onlyEffects := List.forall_mem_nil _
        replied := ⟨success, hevent, hsuccess⟩
        ofInit := fun _ => rfl
        ofVacant := fun hrun => absurd hinit hrun
        ofUnloaded := fun code _ _ _ hrun => by
          rw [hcommand] at hrun
          cases hrun }
    · rw [Leaves, Worker.isInitialized, hlive, hsuccess]
      simp only [hinit, true_and, not_true_eq_false, false_and, and_false, or_false]
  have hfailed (reason : String) : (Event.initFailed reason).Replies enc.command false := by
    rw [hcommand]
    exact .init
  rcases answer with cause | ⟨⟨⟩⟩
  · have hreply : (enc.worker.reply enc.command).runTo setting.receptive ([], enc.state) =
        (some (.initFailed cause.message, none), [], e) := by
      rw [hcommand, Worker.reply, Worker.boot_eq, Work.runTo_bind, hopen]
      rfl
    exact hends hreply (hfailed cause.message) (by simp [hsucceeds]) rfl
  · have hreply : (enc.worker.reply enc.command).runTo setting.receptive ([], enc.state) =
        (some (Worker.started setup (enc.worker.interpreter.boot ⟨setup.baseUrl, setup.packages⟩)),
          [], e) := by
      rw [hcommand, Worker.reply, Worker.boot_eq, Work.runTo_bind, hopen]
      rfl
    cases hboot : enc.worker.interpreter.boot ⟨setup.baseUrl, setup.packages⟩ with
    | ready state =>
        rw [hboot] at hreply
        have hbooted : Event.initOk.Replies enc.command true := by
          rw [hcommand]
          exact .init
        refine hends hreply hbooted ?_ rfl
        rw [hsucceeds]
        exact iff_of_true rfl ⟨rfl, state, hboot⟩
    | refused reason =>
        rw [hboot] at hreply
        exact hends hreply (hfailed reason) (by simp [hsucceeds, hboot]) rfl
    | panicked message =>
        rw [hboot] at hreply
        exact hends hreply (hfailed _) (by simp [hsucceeds, hboot]) rfl

theorem not_isInit_of_run {code : String} (hcommand : enc.command = .run code) : ¬ enc.IsInit := by
  rintro ⟨setup, hinit⟩
  rw [hcommand] at hinit
  cases hinit

theorem ends_of_vacant {code : String} (hcommand : enc.command = .run code)
    (hlive : enc.worker.live = none) : enc.Ends setting := by
  have hrun := enc.not_isInit_of_run hcommand
  have hreply : (enc.worker.reply enc.command).runTo setting.receptive ([], enc.state) =
      (some (.runFailed Worker.notInitialized, none), [], enc.state) := by
    rw [hcommand, Worker.reply, Worker.runCode, hlive]
    rfl
  have hhandled := events_of_reply setting enc hreply
  have hunloaded {code : String} {ending : Ending Unit} {left : Live σ} {s : List Event × ε} :
      ¬ enc.LoadEnds setting code ending left s := by
    rintro ⟨live, hsome, -⟩
    rw [hlive] at hsome
    cases hsome
  refine ⟨_, _, hhandled, ⟨[], .runFailed Worker.notInitialized, ?_⟩, ?_⟩
  · exact {
      posted := congrArg (·.2.1) hhandled
      onlyEffects := List.forall_mem_nil _
      replied := by
        refine ⟨false, ?_, ?_⟩
        · rw [hcommand]
          exact .run
        · rw [Succeeds, hcommand]
          refine iff_of_false Bool.false_ne_true ?_
          rintro ⟨output, left, s, loaded, between, hload, -⟩
          exact hunloaded hload
      ofInit := fun _ => rfl
      ofVacant := fun _ _ => ⟨rfl, rfl⟩
      ofUnloaded := fun _ _ _ _ _ hload => absurd hload hunloaded }
  · simp [Leaves, Worker.isInitialized, hlive, hrun]

theorem reply_run {code : String} {live : Live σ} (hcommand : enc.command = .run code)
    (hlive : enc.worker.live = some live) :
    (enc.worker.reply enc.command).runTo setting.receptive ([], enc.state) =
      ((enc.outcome setting code live).1.map Worker.report,
        (enc.outcome setting code live).2) := by
  rw [hcommand, Worker.reply, Worker.runCode, hlive, outcome]
  refine (Work.runTo_bind _ _ _ _).trans ?_
  obtain ⟨_ | ⟨⟨ending, state⟩, bridge⟩, s⟩ :=
    (Work.ofDialogue live.bridge (enc.worker.interpreter.loadAndRun code live.state)).runTo
      setting.receptive ([], enc.state)
  · rfl
  · cases ending <;> rfl

theorem outcome_effects (code : String) (live : Live σ) :
    ∀ event ∈ (enc.outcome setting code live).2.1, event.IsEffect := by
  obtain ⟨effects, heffects, hposted⟩ := Work.ofDialogue_effectsAfter setting live.bridge
    (enc.worker.interpreter.loadAndRun code live.state) ([], enc.state)
  rw [outcome, hposted, List.nil_append]
  exact heffects

theorem ends_or_waits_of_live {code : String} {live : Live σ} (hcommand : enc.command = .run code)
    (hlive : enc.worker.live = some live) : enc.Ends setting ∨ enc.Waits setting := by
  have hrun := enc.not_isInit_of_run hcommand
  have hreply := reply_run setting enc hcommand hlive
  have heffects := outcome_effects setting enc code live
  cases houtcome : enc.outcome setting code live with
  | mk ended s =>
    rw [houtcome] at hreply heffects
    cases ended with
    | none =>
        right
        have hhandled : enc.handled setting = (none, s) := by
          rw [handled_eq, hreply]
          rfl
        refine ⟨congrArg (·.1) hhandled, hrun, ?_⟩
        rw [events, hhandled]
        exact heffects
    | some ended =>
        left
        obtain ⟨⟨ending, state⟩, bridge⟩ := ended
        have hhandled := events_of_reply setting enc hreply
        have hsucceeds : enc.Succeeds setting ↔ _ := succeeds_run_iff hcommand hlive
        have hpanics : enc.Panics setting ↔ _ := panics_iff hcommand hlive
        simp only [houtcome, Prod.mk.injEq, Option.some.injEq] at hsucceeds hpanics
        refine ⟨_, _, hhandled, ⟨s.1, (Worker.report ((ending, state), bridge)).1, ?_⟩, ?_⟩
        · exact {
            posted := congrArg (·.2.1) hhandled
            onlyEffects := heffects
            replied := by
              rw [hcommand, hsucceeds]
              cases ending with
              | ok output => exact ⟨true, .run, by simp⟩
              | raised error => exact ⟨false, .run, by simp⟩
              | panicked message => exact ⟨false, .run, by simp⟩
            ofInit := fun hinit => absurd hinit hrun
            ofVacant := fun _ hvacant => by
              rw [hlive] at hvacant
              cases hvacant
            -- Loading and running are one script, which stops where loading does.
            ofUnloaded := fun code' ending left s' hcode hload hending => by
              obtain rfl := Command.run.inj (hcommand.symm.trans hcode)
              rw [← outcome_of_unloaded hlive hload hending, houtcome] }
        · rw [Leaves, hpanics]
          cases ending <;> simp [Worker.report, Worker.isInitialized, hlive, hrun]

theorem ends_or_waits : enc.Ends setting ∨ enc.Waits setting := by
  cases hcommand : enc.command with
  | init setup => exact .inl (ends_of_init setting enc hcommand)
  | run code =>
      cases hlive : enc.worker.live with
      | none => exact .inl (ends_of_vacant setting enc hcommand hlive)
      | some live => exact ends_or_waits_of_live setting enc hcommand hlive

variable {setting enc}

theorem ends_of_handled {next : Worker σ} {result : Except TransportError Unit}
    {s : List Event × ε} (hhandled : enc.handled setting = (some (result, next), s)) :
    result = .ok () ∧ (∃ effects reply, enc.Answered setting effects reply) ∧
      enc.Leaves setting next := by
  rcases ends_or_waits setting enc with ⟨next', s', hends, hanswered, hleaves⟩ | ⟨hnone, -⟩
  · rw [hhandled] at hends
    obtain ⟨⟨⟩, rfl⟩ := Prod.mk.inj hends
    exact ⟨rfl, hanswered, hleaves⟩
  · rw [hhandled] at hnone
    cases hnone

end Encounter

/-- A worker came to an end with these commands, one after the other. -/
inductive Served {σ ε : Type} (setting : Work.Setting ε) :
    Worker σ → ε → List (Encounter σ ε) → Worker σ → ε → Prop where
  | nil (worker : Worker σ) (e : ε) : Served setting worker e [] worker e
  | cons {enc : Encounter σ ε} {next last : Worker σ} {events : List Event} {e e' : ε}
      {rest : List (Encounter σ ε)}
      (hfirst : enc.handled setting = (some (.ok (), next), events, e))
      (hrest : Served setting next e rest last e') :
      Served setting enc.worker enc.state (enc :: rest) last e'

namespace Served

variable {σ ε : Type} {setting : Work.Setting ε} {worker last : Worker σ} {e e' : ε}
  {past : List (Encounter σ ε)}

theorem answered (h : Served setting worker e past last e') :
    ∀ enc ∈ past, ∃ effects reply, enc.Answered setting effects reply := by
  induction h with
  | nil worker e => exact List.forall_mem_nil _
  | cons hfirst hrest ih =>
      exact List.forall_mem_cons.mpr ⟨(Encounter.ends_of_handled hfirst).2.1, ih⟩

/-- The last command that booted an interpreter succeeded, and nothing broke down since. -/
def Booted (setting : Work.Setting ε) (past : List (Encounter σ ε)) : Prop :=
  ∃ earlier enc later, past = earlier ++ enc :: later ∧ enc.IsInit ∧ enc.Succeeds setting ∧
    ∀ enc ∈ later, ¬ enc.IsInit ∧ ¬ enc.Panics setting

theorem not_booted_nil : ¬ Booted setting ([] : List (Encounter σ ε)) := by
  rintro ⟨earlier, enc, later, hpast, -⟩
  exact List.append_ne_nil_of_right_ne_nil earlier (List.cons_ne_nil enc later) hpast.symm

theorem booted_cons (enc : Encounter σ ε) (rest : List (Encounter σ ε)) :
    Booted setting (enc :: rest) ↔ Booted setting rest ∨
      (enc.IsInit ∧ enc.Succeeds setting) ∧ ∀ enc ∈ rest, ¬ enc.IsInit ∧ ¬ enc.Panics setting := by
  constructor
  · rintro ⟨earlier, booting, later, hpast, hinit, hsucceeds, hlater⟩
    rcases List.cons_eq_append_iff.mp hpast with ⟨rfl, hsame⟩ | ⟨earlier, rfl, rfl⟩
    · obtain ⟨rfl, rfl⟩ := List.cons.inj hsame
      exact .inr ⟨⟨hinit, hsucceeds⟩, hlater⟩
    · exact .inl ⟨earlier, booting, later, rfl, hinit, hsucceeds, hlater⟩
  · rintro (⟨earlier, booting, later, rfl, hbooting⟩ | ⟨⟨hinit, hsucceeds⟩, hrest⟩)
    · exact ⟨enc :: earlier, booting, later, rfl, hbooting⟩
    · exact ⟨[], enc, rest, rfl, hinit, hsucceeds, hrest⟩

theorem isInitialized_iff (h : Served setting worker e past last e') :
    last.isInitialized = true ↔ Booted setting past ∨
      worker.isInitialized = true ∧ ∀ enc ∈ past, ¬ enc.IsInit ∧ ¬ enc.Panics setting := by
  induction h with
  | nil worker e => simp [not_booted_nil]
  | @cons enc next last events e e' rest hfirst hrest ih =>
      have hleaves := (Encounter.ends_of_handled hfirst).2.2
      rw [Encounter.Leaves] at hleaves
      rw [ih, booted_cons, hleaves, List.forall_mem_cons]
      tauto

end Served

namespace Worker

variable {σ ε : Type} (setting : Work.Setting ε)

theorem runTo_handleAll_cons (enc : Encounter σ ε) (commands : List Command)
    (taken : List Event) :
    (enc.worker.handleAll (enc.command :: commands)).runTo setting.receptive (taken, enc.state) =
      match enc.handled setting with
      | (some (.ok (), next), s) =>
          (next.handleAll commands).runTo setting.receptive (taken ++ s.1, s.2)
      | (some (.error cause, _), s) => (some (.error cause), taken ++ s.1, s.2)
      | (none, s) => (none, taken ++ s.1, s.2) := by
  have hshift :=
    (setting.receptive_views taken).runTo (enc.worker.handle enc.command) ([], enc.state)
  rw [List.append_nil] at hshift
  rw [handleAll]
  refine (Work.runTo_bind _ _ _ _).trans ?_
  rw [hshift, Encounter.handled]
  obtain ⟨_ | ⟨cause | ⟨⟨⟩⟩, next⟩, s⟩ :=
    (enc.worker.handle enc.command).runTo setting.receptive ([], enc.state) <;> rfl

theorem exists_served (worker : Worker σ) (commands : List Command) (taken : List Event) (e : ε) :
    ∃ past last e', Served setting worker e past last e' ∧
      ((past.map (·.command) = commands ∧
          (worker.handleAll commands).runTo setting.receptive (taken, e) =
            (some (.ok ()), taken ++ past.flatMap (·.events setting), e')) ∨
        ∃ command rest e'', commands = past.map (·.command) ++ command :: rest ∧
          (Encounter.mk last command e').Waits setting ∧
          (worker.handleAll commands).runTo setting.receptive (taken, e) =
            (none, taken ++ past.flatMap (·.events setting) ++
              (Encounter.mk last command e').events setting, e'')) := by
  induction commands generalizing worker taken e with
  | nil =>
      refine ⟨[], worker, e, .nil worker e, .inl ⟨rfl, ?_⟩⟩
      rw [List.flatMap_nil, List.append_nil]
      rfl
  | cons command commands ih =>
      let enc : Encounter σ ε := ⟨worker, command, e⟩
      have hall : (worker.handleAll (command :: commands)).runTo setting.receptive (taken, e) = _ :=
        runTo_handleAll_cons setting enc commands taken
      -- A worker that waits is not given the commands that are left.
      rcases enc.ends_or_waits setting with ⟨next, s, hhandled, -⟩ | hwaits
      · obtain ⟨past, last, e', hpast, hposted⟩ := ih next (taken ++ s.1) s.2
        have hevents : enc.events setting = s.1 := congrArg (·.2.1) hhandled
        refine ⟨enc :: past, last, e', .cons hhandled hpast, ?_⟩
        rw [hall, hhandled, List.flatMap_cons, hevents, List.map_cons, ← List.append_assoc]
        refine hposted.imp ?_ ?_
        · rintro ⟨hcommands, hrun⟩
          exact ⟨congrArg (List.cons command) hcommands, hrun⟩
        · rintro ⟨waiting, rest, e'', rfl, hwaits, hrun⟩
          exact ⟨waiting, rest, e'', rfl, hwaits, hrun⟩
      · refine ⟨[], worker, e, .nil worker e, .inr ⟨command, commands, (enc.handled setting).2.2,
          rfl, hwaits, ?_⟩⟩
        have hnone : enc.handled setting = (none, (enc.handled setting).2) :=
          Prod.ext hwaits.1 rfl
        rw [hall, hnone, List.flatMap_nil, List.append_nil]
        rfl

theorem reply_replies {δ : Type} {around : Work.Surroundings δ} {worker : Worker σ}
    {command : Command} {reply : Event} {live : Option (Live σ)} {s s' : δ}
    (hreply : (worker.reply command).runTo around s = (some (reply, live), s')) :
    ∃ success, reply.Replies command success := by
  cases command with
  | init setup =>
      rw [Worker.reply, boot_eq, Work.runTo_bind] at hreply
      cases hopen : (openBuffer worker.source setup).runTo around s with
      | mk answer opened =>
        rw [hopen] at hreply
        rcases answer with _ | cause | ⟨⟨⟩⟩
        · cases hreply
        · cases hreply
          exact ⟨false, .init⟩
        · cases hboot : worker.interpreter.boot ⟨setup.baseUrl, setup.packages⟩ <;>
            rw [hboot] at hreply <;> cases hreply
          · exact ⟨true, .init⟩
          · exact ⟨false, .init⟩
          · exact ⟨false, .init⟩
  | run code =>
      rw [Worker.reply, runCode] at hreply
      cases hlive : worker.live with
      | none =>
          rw [hlive] at hreply
          cases hreply
          exact ⟨false, .run⟩
      | some live =>
          rw [hlive] at hreply
          replace hreply := (Work.runTo_bind _ _ _ _).symm.trans hreply
          cases hends : (Work.ofDialogue live.bridge
              (worker.interpreter.loadAndRun code live.state)).runTo around s with
          | mk ended left =>
            rw [hends] at hreply
            obtain _ | ⟨⟨ending, state⟩, bridge⟩ := ended
            · cases hreply
            · cases ending <;> cases hreply
              · exact ⟨true, .run⟩
              · exact ⟨false, .run⟩
              · exact ⟨false, .run⟩

variable {setting}

/-- Whatever was taken before, handling a command fails just if the reply is not taken. -/
theorem handle_refused {sink : List Event → Event → Except Refusal Unit} {worker next : Worker σ}
    {command : Command} {result : Except TransportError Unit} {s s' : List Event × ε}
    (hhandled : (worker.handle command).runTo (setting.direct sink) s =
      (some (result, next), s')) :
    ∃ reply live taken e, (worker.reply command).runTo (setting.direct sink) s =
        (some (reply, live), taken, e) ∧
      (∃ success, reply.Replies command success) ∧
      ∀ cause, result = .error cause ↔
        ∃ refusal, sink taken reply = .error refusal ∧ refusal.error = cause := by
  have hreply : worker.handle command = (worker.reply command).bind worker.conclude := by
    rw [handle_eq]
    cases command <;> rfl
  rw [hreply, Work.runTo_bind] at hhandled
  cases hreplied : (worker.reply command).runTo (setting.direct sink) s with
  | mk ended left =>
    rw [hreplied] at hhandled
    obtain ⟨taken, e⟩ := left
    obtain _ | ⟨reply, live⟩ := ended
    · cases hhandled
    · refine ⟨reply, live, taken, e, rfl, reply_replies hreplied, fun cause => ?_⟩
      simp only [conclude, Work.runTo, Work.Setting.direct] at hhandled
      cases hsink : sink taken reply with
      | ok done =>
          rw [hsink] at hhandled
          cases hhandled
          simp
      | error refusal =>
          rw [hsink] at hhandled
          cases hhandled
          simp

/-- What a worker posts where every event is taken, command by command. Each command that it comes
to an end with is answered, and one that it does not come to an end with is a run that waits for a
line; it holds an interpreter just if the last one that was to boot did, and did not break down
since. Where events are refused, handling a command fails just if the reply is refused. -/
theorem commands_answered (interpreter : Interpreter σ) (source : BufferSource)
    (setting : Work.Setting ε) (commands : List Command) (e : ε) :
    (∃ past last e', Served setting (new interpreter source) e past last e' ∧
      (∀ enc ∈ past, ∃ effects reply, enc.Answered setting effects reply) ∧
      (last.isInitialized = true ↔ Served.Booted setting past) ∧
      ((past.map (·.command) = commands ∧
          ((new interpreter source).handleAll commands).runTo setting.receptive ([], e) =
            (some (.ok ()), past.flatMap (·.events setting), e')) ∨
        ∃ command rest e'', commands = past.map (·.command) ++ command :: rest ∧
          (Encounter.mk last command e').Waits setting ∧
          ((new interpreter source).handleAll commands).runTo setting.receptive ([], e) =
            (none, past.flatMap (·.events setting) ++
              (Encounter.mk last command e').events setting, e''))) ∧
    ∀ (sink : List Event → Event → Except Refusal Unit) (worker : Worker σ) command result next s s',
      (worker.handle command).runTo (setting.direct sink) s = (some (result, next), s') →
      ∃ reply live taken e, (worker.reply command).runTo (setting.direct sink) s =
          (some (reply, live), taken, e) ∧
        (∃ success, reply.Replies command success) ∧
        ∀ cause, result = .error cause ↔
          ∃ refusal, sink taken reply = .error refusal ∧ refusal.error = cause := by
  constructor
  · obtain ⟨past, last, e', hpast, hposted⟩ :=
      exists_served setting (new interpreter source) commands [] e
    refine ⟨past, last, e', hpast, hpast.answered, ?_, ?_⟩
    · rw [hpast.isInitialized_iff, or_iff_left]
      rintro ⟨⟨⟩, -⟩
    · simpa only [List.nil_append] using hposted
  · intro sink worker command result next s s' hhandled
    exact handle_refused hhandled

/-- It writes every text, and breaks down over an empty one. -/
def fragile : Interpreter Unit where
  boot _ := .ready ()
  load _ _ := .done (.ok (), ())
  run code _ := match code with
    | "" => .stderr "empty" fun _ => .done (.panicked none, ())
    | code => .stdout code fun _ => .done (.ok none, ())

/-- Nobody listens, the buffer is there, and no line ever comes. -/
def deaf : Work.Setting Unit where
  hear _ _ := ()
  await _ _ _ := none
  openBuffer _ _ _ := (.ok (), ())

theorem commands_answered_of_fragile :
    (∃ past last e', Served deaf (new fragile .byUrl) () past last e' ∧
      (last.isInitialized = true ↔ Served.Booted deaf past) ∧
      past.map (·.command) = [.run "a", .init ⟨"", "", [], none, none⟩, .run "a", .run ""] ∧
      past.flatMap (·.events deaf) = [.runFailed notInitialized, .initOk, .stdout "a", .runOk none,
        .stderr "empty", .runFailed "interpreter panicked: unknown panic"]) ∧
    ∃ reply live taken e, ((new fragile .byUrl).reply (.run "a")).runTo
        (deaf.direct fun _ _ => .error ⟨.disconnected, false⟩) ([], ()) =
          (some (reply, live), taken, e) ∧ (∃ success, reply.Replies (.run "a") success) := by
  constructor
  · have hrun : ((new fragile .byUrl).handleAll
        [.run "a", .init ⟨"", "", [], none, none⟩, .run "a", .run ""]).runTo deaf.receptive
          ([], ()) = (some (.ok ()), [.runFailed notInitialized, .initOk, .stdout "a", .runOk none,
            .stderr "empty", .runFailed "interpreter panicked: unknown panic"], ()) := by rfl
    obtain ⟨past, last, e', hpast, -, hlast, hposted⟩ := (commands_answered fragile .byUrl deaf
      [.run "a", .init ⟨"", "", [], none, none⟩, .run "a", .run ""] ()).1
    rw [hrun] at hposted
    rcases hposted with ⟨hcommands, hevents⟩ | ⟨_, _, _, -, -, hwaits⟩
    · exact ⟨past, last, e', hpast, hlast, hcommands, (Prod.mk.inj (Prod.mk.inj hevents).2).1.symm⟩
    · cases hwaits
  · have hrefused : ((new fragile .byUrl).handle (.run "a")).runTo
        (deaf.direct fun _ _ => .error ⟨.disconnected, false⟩) ([], ()) =
          (some (.error .disconnected, new fragile .byUrl), [], ()) := rfl
    obtain ⟨reply, live, taken, e, hreply, hreplies, -⟩ :=
      (commands_answered fragile .byUrl deaf [] ()).2 _ _ _ _ _ _ _ hrefused
    exact ⟨reply, live, taken, e, hreply, hreplies⟩

end Worker
end ScriptConsole
