import ScriptConsole.Proofs.System.Sitting

/-!
A user sits at a session, types lines and waits whenever a text runs. Whatever the order of the
steps, the session shows what one interpreter would show that is run without a worker, and it
always comes to the point where the user may type again.
-/

namespace ScriptConsole

variable {σ : Type}

/-- The lines that the user types in a step. -/
def Label.typed : Label → List String
  | .call (.line text) => [text]
  | _ => []

namespace System

/-- The user may type: there is no text that runs on after the reply. -/
def IsTurn (system : System σ) (session : Session) : Prop :=
  ∃ last, system.activity = .resting session last ∧
    ∀ reply, last = some (.ok reply) → reply.isUnfinished = false

/-- The steps while a user sits at the session. The session may be started before anything else,
the user types when it is their turn and waits when a text runs on; all else happens in any
order. -/
def Admits (system : System σ) : Label → Prop
  | .call .start => (∃ session, system.activity = .resting session none) ∧ system.world.lanes = []
  | .call (.line _) => ∃ session, system.IsTurn session
  | .call (.wait none) =>
      ∃ session reply, system.activity = .resting session (some (.ok reply)) ∧
        reply.isUnfinished = true
  | .call _ | .crash _ | .jam _ => False
  | .deed | .hear | .quiet | .gone | .work _ | .pass _ => True

/-- A user who has typed these lines gets from one state of the system to the other, while the
session never waits too long for its worker to boot. -/
inductive Sitting (begin : System σ) : List String → System σ → Prop where
  | begin : Sitting begin [] begin
  | step {typed : List String} {system system' : System σ} {label : Label}
      (h : Sitting begin typed system) (hadmits : system.Admits label)
      (hstep : system.step label = some system') (hintime : system'.InTime) :
      Sitting begin (typed ++ label.typed) system'

variable {service : Service σ} {config : Config} {limit : Nat} {r : Reference σ}
  {system system' system'' : System σ} {typed more : List String}

theorem Sitting.trans (h : system.Sitting typed system') (h' : system'.Sitting more system'') :
    system.Sitting (typed ++ more) system'' := by
  induction h' with
  | begin => rwa [List.append_nil]
  | step _ hadmits hstep hintime ih =>
      rw [← List.append_assoc]
      exact ih.step hadmits hstep hintime

theorem Sitting.next {label : Label} (hadmits : system.Admits label)
    (hstep : system.step label = some system') (hintime : system'.InTime)
    (htyped : label.typed = []) (h : system'.Sitting [] system'') :
    system.Sitting [] system'' := by
  have hfirst := Sitting.begin.step hadmits hstep hintime
  rw [htyped] at hfirst
  exact hfirst.trans h

/-- A step of the sitting leads to what the reference makes of the line that is typed in it. -/
theorem InScene.sits (h : system.InScene service config limit r) (hintime : system.InTime)
    {label : Label} (hadmits : system.Admits label) (hstep : system.step label = some system') :
    system'.InScene service config (limit + label.typed.length)
      (label.typed.foldl (Reference.line service.interpreter) r) := by
  cases label with
  | call call =>
      cases call with
      | start =>
          obtain ⟨⟨session, hrests⟩, hlanes⟩ := hadmits
          exact h.start hrests hlanes hstep
      | line text =>
          obtain ⟨session, last, hrests, hturn⟩ := hadmits
          exact h.line hrests hturn hstep
      | wait limit =>
          cases limit with
          | some limit => exact hadmits.elim
          | none =>
              obtain ⟨session, reply, hrests, hturn⟩ := hadmits
              exact h.wait hrests hturn hstep
      | _ => exact hadmits.elim
  | deed => exact h.deed hstep
  | hear => exact h.hear hstep
  | quiet => exact h.quiet hintime hstep
  | gone => exact absurd hstep h.not_gone
  | work worker => exact h.work hstep
  | pass milliseconds => exact h.pass hstep
  | crash worker => exact hadmits.elim
  | jam cause => exact hadmits.elim

theorem Sitting.inScene (h : system.Sitting typed system')
    (hscene : system.InScene service config 0 r) (hintime : system.InTime) :
    system'.InTime ∧ system'.InScene service config typed.length
      (typed.foldl (Reference.line service.interpreter) r) := by
  induction h with
  | begin => exact ⟨hintime, hscene⟩
  | step _ hadmits hstep hintime' ih =>
      refine ⟨hintime', ?_⟩
      rw [List.length_append, List.foldl_append]
      exact ih.2.sits ih.1 hadmits hstep

/-! ### That the user gets to type -/

/-- Without typing anything the user can get to where they may type. -/
def CanType (system : System σ) : Prop :=
  ∃ system' session, system.Sitting [] system' ∧ system'.IsTurn session

theorem CanType.before {label : Label} (h : system'.CanType) (hadmits : system.Admits label)
    (hstep : system.step label = some system') (hintime : system'.InTime)
    (htyped : label.typed = []) : system.CanType := by
  obtain ⟨system'', session, hsitting, hturn⟩ := h
  exact ⟨system'', session, .next hadmits hstep hintime htyped hsitting, hturn⟩

theorem InScene.isTurn (h : system.InScene service config limit r)
    (hclose : system.activity.distance = 0) : ∃ session, system.IsTurn session := by
  obtain ⟨world, activity⟩ := system
  obtain ⟨answers, place, -, -, -, hscene⟩ := h
  have hturn {session : Session} {last : Option (Except SessionError Reply)}
      (hmay : MayType last) : (⟨world, .resting session last⟩ : System σ).IsTurn session :=
    ⟨last, rfl, fun reply => hmay.finished⟩
  cases hscene with
  | fresh hfresh hpending htyping houtcomes hpause hmay => exact ⟨_, hturn hmay⟩
  | idle hsits hpending htyping hcalm hpause hmay => exact ⟨_, hturn hmay⟩
  | asked => exact ⟨_, hturn (.inr ⟨_, rfl, rfl⟩)⟩
  | running hsits hbusy htells hunfinished =>
      rw [Activity.distance, if_pos hunfinished] at hclose
      cases hclose
  | _ => cases hclose

section Worker

variable {world : World σ} {standing : Standing σ} {outbox : List Event} {content : Content}
  {session : Session} {answers : Nat}

theorem canType_of_progress {activity : Activity} (hhosts : world.Hosts service config)
    (hhas : world.Has service (.taken standing outbox content)) (hheeds : standing.Heeds content)
    (hready : standing.IsReady content) (hintime : (⟨world, activity⟩ : System σ).InTime)
    (hnext : ∀ (world' : World σ) events standing', world'.clock = world.clock →
      world'.Hosts service config → standing.Goes service content events standing' →
      (events = [] → standing' ≠ standing) →
      world'.Has service (.taken standing' (outbox ++ events) content) →
      (⟨world', activity⟩ : System σ).CanType) :
    (⟨world, activity⟩ : System σ).CanType := by
  obtain ⟨lane, hlanes⟩ : ∃ lane, world.lanes = [lane] := by
    obtain ⟨-, lane, hlanes, -⟩ := hhas
    exact ⟨lane, hlanes⟩
  -- Steps that neither say anything nor change the standing bring the worker closer to one that
  -- does, so that there are only so many of them in a row.
  induction hlag : lane.lag using Nat.strongRecOn generalizing world lane with
  | ind n ih =>
      obtain ⟨hholds, same, hsame, hstands, houtbox, hreads⟩ := id hhas
      obtain rfl : same = lane := List.singleton_inj.mp (hsame.symm.trans hlanes)
      obtain ⟨lane', hstep, hcloser⟩ :
          ∃ lane', same.step world.channel world.buffer world.clock world.storage =
            some (lane', world.storage) ∧ (lane'.outbox = same.outbox → lane'.lag < same.lag) :=
        hstands.goes_on hready hheeds hholds hreads hhosts.named hhosts.url
      let world' : World σ := { world with lanes := [lane'] }
      have hwork : world.work 0 = some world' := by
        simp only [World.work, hlanes, List.getElem?_cons_zero, Option.bind_eq_bind,
          Option.bind_some, hstep, List.set_cons_zero, Option.pure_def]
        rfl
      obtain ⟨hhosts', events, standing', hgoes, hhas'⟩ := hhosts.work hhas hheeds hwork
      have hintime' : (⟨world', activity⟩ : System σ).InTime := hintime
      have hfirst : step ⟨world, activity⟩ (.work 0) = some ⟨world', activity⟩ := by
        rw [System.step, hwork]
        rfl
      refine CanType.before ?_ (by trivial) hfirst hintime' rfl
      by_cases hstill : events = [] ∧ standing' = standing
      · obtain ⟨rfl, rfl⟩ := hstill
        rw [List.append_nil] at hhas'
        have hquiet : lane'.outbox = same.outbox := by
          obtain ⟨-, other, hother, -, houtbox', -⟩ := hhas'
          obtain rfl : lane' = other := List.singleton_inj.mp hother
          exact houtbox'.trans houtbox.symm
        exact ih _ (hlag ▸ hcloser hquiet) hhosts' hhas' hintime' hnext lane' rfl rfl
      · exact hnext world' events standing' rfl hhosts' hgoes
          (fun hnil hsame => hstill ⟨hnil, hsame⟩) hhas'

/-- The session waits for the end of a text. -/
abbrev waiting (world : World σ) (session : Session) : System σ :=
  ⟨world, .listening session (.wait none) .forever⟩

/-- A text runs in the worker of the session, which has yet to hear these events. -/
structure Attends (service : Service σ) (config : Config) (limit : Nat) (r : Reference σ)
    (answers : Nat) (content : Content) (world : World σ) (session : Session)
    (standing : Standing σ) (outbox : List Event) : Prop where
  hosts : world.Hosts service config
  has : world.Has service (.taken standing outbox content)
  within : answers ≤ limit
  busy : session.IsBusy
  tells : ∃ shown, session.Sits answers shown ∧ standing.Tells answers content r shown outbox

theorem Attends.inScene
    (h : Attends service config limit r answers content world session standing outbox) :
    (waiting world session).InScene service config limit r := by
  obtain ⟨shown, hsits, htells⟩ := h.tells
  exact ⟨answers, _, h.within, h.hosts, h.has, .listening hsits h.busy htells⟩

variable (hdone : ∀ system' : System σ, system'.InScene service config limit r → system'.InTime →
  system'.activity.distance < 2 → system'.CanType)
include hdone

theorem Attends.hear {event : Event} {events : List Event}
    (h : Attends service config limit r answers content world session standing (event :: events))
    (hwrite : event.IsWrite → ∀ (world' : World σ) session',
      Attends service config limit r answers content world' session' standing events →
      (waiting world' session').CanType) :
    (waiting world session).CanType := by
  obtain ⟨hholds, lane, hlanes, hstands, houtbox, hreads⟩ := id h.has
  obtain ⟨shown, hsits, htells⟩ := h.tells
  let world' : World σ := { world with lanes := [{ lane with outbox := events }] }
  have hstep : step (waiting world session) .hear = some ⟨world',
      .ofMove world.clock (some .forever) (session.hear (.wait none) (.event event))⟩ := by
    simp only [step, hsits.live, World.event?, hlanes, List.getElem?_cons_zero, houtbox,
      Option.bind_eq_bind, Option.bind_some, Option.pure_def, mayHear, List.set_cons_zero, if_true]
    rfl
  have hafter := h.inScene.hear hstep
  rcases htells.hear with ⟨hwrites, htells'⟩ |
    ⟨rfl, -, -, bridge, request, prompt, more, rfl, rfl, -, -⟩ |
    ⟨rfl, -, -, live, outcome, rfl, rfl, -, -, -⟩
  · obtain ⟨session', hmove, hsits', hbusy⟩ := hsits.hear_write h.busy hwrites
    rw [hmove] at hstep
    have hnext : Attends service config limit r answers content world' session' standing events :=
      ⟨h.hosts.goes_on _ _, ⟨hholds, _, rfl, hstands.heard _, rfl, hreads⟩, h.within, hbusy,
        _, hsits', htells'⟩
    refine CanType.before (hwrite hwrites world' session' hnext) (by trivial) hstep ?_ rfl
    rintro _ _ _ ⟨⟩
  · have hintime : System.InTime ⟨world', .ofMove world.clock (some .forever)
        (session.hear (.wait none) (.event (.input request prompt)))⟩ := by
      rintro _ _ _ ⟨⟩
    exact CanType.before (hdone _ hafter hintime Nat.one_lt_two) (by trivial) hstep hintime rfl
  · obtain ⟨session', hmove, -⟩ := hsits.hear_run h.busy outcome
    rw [hmove] at hafter hstep
    have hintime : System.InTime ⟨world', .ofMove world.clock (some .forever)
        (session'.reply (.waited .idle))⟩ := by
      rintro _ _ _ ⟨⟩
    exact CanType.before (hdone _ hafter hintime Nat.zero_lt_two) (by trivial) hstep hintime rfl

theorem Attends.hearAll
    (h : Attends service config limit r answers content world session standing outbox)
    (hquiet : ∀ (world' : World σ) session',
      Attends service config limit r answers content world' session' standing [] →
      (waiting world' session').CanType) :
    (waiting world session).CanType := by
  induction outbox generalizing world session with
  | nil => exact hquiet world session h
  | cons event events ih => exact h.hear hdone fun _ world' session' h' => ih h'

theorem Attends.goes_on
    (h : Attends service config limit r answers content world session standing outbox)
    (hready : standing.IsReady content)
    (hnext : ∀ (world' : World σ) session' events standing',
      standing.Goes service content events standing' → (events = [] → standing' ≠ standing) →
      Attends service config limit r answers content world' session' standing' events →
      (waiting world' session').CanType) :
    (waiting world session).CanType := by
  apply h.hearAll hdone
  intro world' session' h'
  obtain ⟨shown, hsits, htells⟩ := h'.tells
  apply canType_of_progress h'.hosts h'.has htells.heeds hready (by rintro _ _ _ ⟨⟩)
  intro world'' events standing' _ hhosts hgoes hmoved hhas
  exact hnext world'' session' events standing' hgoes hmoved
    ⟨hhosts, hhas, h'.within, h'.busy, shown, hsits, htells.goes hgoes⟩

/-- A text that runs comes to its end or to a line that it asks for. -/
theorem Attends.run (execution : Execution σ) {bridge : Bridge}
    (h : Attends service config limit r answers content world session
      (.running bridge execution) outbox) :
    (waiting world session).CanType := by
  induction execution generalizing world session bridge outbox with
  | done ended =>
      apply h.goes_on hdone trivial
      intro world' session' events standing' hgoes hmoved h'
      cases hgoes with
      | stay => exact absurd rfl (hmoved rfl)
      | @ended _ ending _ hplain =>
          apply h'.hear hdone
          intro hwrite
          cases ending <;> exact hwrite.elim
  | stdout text next ih =>
      apply h.goes_on hdone trivial
      intro world' session' events standing' hgoes hmoved h'
      cases hgoes with
      | stay => exact absurd rfl (hmoved rfl)
      | stdout => exact ih (.ok ()) h'
  | stderr text next ih =>
      apply h.goes_on hdone trivial
      intro world' session' events standing' hgoes hmoved h'
      cases hgoes with
      | stay => exact absurd rfl (hmoved rfl)
      | stderr => exact ih (.ok ()) h'
  | stdin prompt next ih =>
      apply h.goes_on hdone trivial
      intro world' session' events standing' hgoes hmoved h'
      cases hgoes with
      | stay => exact absurd rfl (hmoved rfl)
      | asked =>
          apply h'.hear hdone
          intro hwrite
          exact hwrite.elim

theorem Attends.canType
    (h : Attends service config limit r answers content world session standing outbox)
    (hlimit : limit ≤ UInt64.size) : (waiting world session).CanType := by
  apply h.hearAll hdone
  intro world' session' h'
  obtain ⟨shown, hsits, htells⟩ := id h'.tells
  generalize hempty : ([] : List Event) = nothing at h' htells
  cases htells with
  | asked => simp at hempty
  | ended => simp at hempty
  | ahead hahead hwrites hcomes =>
      cases hahead with
      | running hcalm => exact h'.run hdone
      | @answered bridge request number text next hnumber hbefore hcontent =>
          -- The line for the worker is in the buffer already: the worker takes it and runs on.
          have hready : (Standing.asking bridge request next).IsReady content := by
            have hwithin := h'.within
            rw [hcontent]
            exact hbefore.isNewerThan (by omega) request text
          apply h'.goes_on hdone hready
          intro world'' session'' events standing' hgoes hmoved h''
          cases hgoes with
          | stay => exact absurd rfl (hmoved rfl)
          | answered => exact h''.run hdone

end Worker

theorem InScene.exists_hear_booted {world : World σ} {session : Session} {after : AfterBoot}
    {stop : Until} {shown : List Entry}
    (h : (⟨world, .listening session (.boot after) stop⟩ : System σ).InScene service config limit r)
    (hhas : world.Has service
      (.taken (.free ⟨service.state, Worker.newBridge service.setup⟩) [.initOk] .empty))
    (hbooting : session.IsBooting config shown) (hleads : after.Leads service session r shown)
    (hintime : (⟨world, .listening session (.boot after) stop⟩ : System σ).InTime) :
    ∃ system', step ⟨world, .listening session (.boot after) stop⟩ .hear = some system' ∧
      system'.InScene service config limit r ∧ system'.InTime ∧ system'.activity.distance < 6 := by
  obtain ⟨-, lane, hlanes, -, houtbox, -⟩ := hhas
  have hmay : (⟨world, .listening session (.boot after) stop⟩ : System σ).mayHear stop = true := by
    cases stop with
    | instant deadline => exact decide_eq_true (Nat.le_of_lt (hintime _ _ _ rfl))
    | _ => rfl
  obtain ⟨session', hmove, -⟩ := hbooting.hear after
  have hstep : step ⟨world, .listening session (.boot after) stop⟩ .hear =
      some ⟨{ world with lanes := [{ lane with outbox := [] }] },
        .ofMove world.clock (some stop) (session'.afterBoot after)⟩ := by
    simp only [step, hbooting.live, World.event?, hlanes, List.getElem?_cons_zero, houtbox,
      Option.bind_eq_bind, Option.bind_some, Option.pure_def, hmay, List.set_cons_zero, if_true,
      tell, hmove]
    rfl
  refine ⟨_, hstep, h.hear hstep, ?_⟩
  cases hleads with
  | reply =>
      refine ⟨?_, Nat.zero_lt_succ 5⟩
      rintro _ _ _ ⟨⟩
  | @run code =>
      rw [Session.afterBoot, Session.postRun]
      cases session'.live with
      | none =>
          refine ⟨?_, Nat.zero_lt_succ 5⟩
          rintro _ _ _ ⟨⟩
      | some worker =>
          refine ⟨?_, Nat.lt_add_of_pos_right Nat.zero_lt_two⟩
          rintro _ _ _ ⟨⟩

theorem InScene.exists_quiet {world : World σ} {session : Session} {answers : Nat}
    {content : Content} {bridge : Bridge} {request : UInt64} {text : String} {shown : List Entry}
    {more : Except HostError String → Execution σ}
    (h : (⟨world, .listening session (.poll (.line (some request) text)) .drained⟩ :
      System σ).InScene service config limit r)
    (hhas : world.Has service (.taken (.asking bridge request more) [] content))
    (hsits : session.Sits answers shown) (hasked : session.HasAsked request) :
    ∃ system', step ⟨world, .listening session (.poll (.line (some request) text)) .drained⟩
        .quiet = some system' ∧
      system'.InScene service config limit r ∧ system'.InTime ∧ system'.activity.distance < 5 := by
  obtain ⟨-, lane, hlanes, hstands, houtbox, -⟩ := hhas
  obtain ⟨next, session', hmove, -⟩ := hasked.answer hsits text
  have hstep : step ⟨world, .listening session (.poll (.line (some request) text)) .drained⟩
      .quiet = some ⟨world, .ofMove world.clock (some .drained)
        (session.hear (.poll (.line (some request) text)) .quiet)⟩ := by
    simp only [step, hsits.live, Option.bind_eq_bind, Option.bind_some, mayStop, World.isQuiet,
      hlanes, List.getElem?_cons_zero, hstands.goes.2, houtbox, Bool.not_false, List.isEmpty_nil,
      Bool.and_self, if_true, Option.pure_def]
    rfl
  have hintime : (⟨world, .listening session (.poll (.line (some request) text)) .drained⟩ :
      System σ).InTime := by
    rintro _ _ _ ⟨⟩
  refine ⟨_, hstep, h.quiet hintime hstep, ?_⟩
  rw [hmove]
  refine ⟨?_, Nat.lt_succ_self 4⟩
  rintro _ _ _ ⟨⟩

theorem InScene.exists_wait {world : World σ} {session : Session}
    {last : Option (Except SessionError Reply)}
    (h : (⟨world, .resting session last⟩ : System σ).InScene service config limit r)
    (hfar : (Activity.resting session last).distance ≠ 0) :
    ∃ system', (⟨world, .resting session last⟩ : System σ).Admits (.call (.wait none)) ∧
      step ⟨world, .resting session last⟩ (.call (.wait none)) = some system' ∧
      system'.InScene service config limit r ∧ system'.InTime ∧
      system'.activity.distance < (Activity.resting session last).distance := by
  obtain ⟨reply, rfl, hunfinished⟩ :
      ∃ reply, last = some (.ok reply) ∧ reply.isUnfinished = true := by
    rcases last with _ | _ | reply
    · exact absurd rfl hfar
    · exact absurd rfl hfar
    · exact ⟨reply, rfl, by_contra fun hfinished => hfar (if_neg hfinished)⟩
  obtain ⟨answers, place, -, -, -, hscene⟩ := id h
  cases hscene with
  | running hsits hbusy htells =>
      have hstep : step ⟨world, .resting session (some (.ok reply))⟩ (.call (.wait none)) =
          some ⟨world, .listening session (.wait none) .forever⟩ := by
        have hcall : session.call (.wait none) = _ := hbusy.awaitQuiet hsits.live none
        simp only [step, act, hcall]
        rfl
      refine ⟨_, ⟨session, reply, rfl, hunfinished⟩, hstep, h.wait rfl hunfinished hstep, ?_, ?_⟩
      · rintro _ _ _ ⟨⟩
      · rw [Activity.distance, Activity.distance, if_pos hunfinished]
        exact Nat.lt_succ_self 2
  | fresh _ _ _ _ _ hmay => cases hunfinished.symm.trans (hmay.finished rfl)
  | idle _ _ _ _ _ hmay => cases hunfinished.symm.trans (hmay.finished rfl)
  | asked => cases hunfinished

/-- Wherever the sitting has got to, the user gets to type again. -/
theorem InScene.canType (h : system.InScene service config limit r) (hintime : system.InTime)
    (hlimit : limit ≤ UInt64.size)
    (hpatient : ∀ limit, config.initTimeout = some limit → 0 < limit.milliseconds) :
    system.CanType := by
  -- Each deed brings the session closer to its next rest; where it listens, its worker comes to
  -- say something that does.
  induction hdistance : system.activity.distance using Nat.strongRecOn generalizing system with
  | ind n ih =>
      obtain ⟨world, activity⟩ := system
      cases activity with
      | acting move kept =>
          obtain ⟨system', hstep, hscene, hcloser, hintime'⟩ := h.exists_deed rfl
          exact (ih _ (hdistance ▸ hcloser) hscene (hintime' hpatient) rfl).before (by trivial)
            hstep (hintime' hpatient) rfl
      | resting session last =>
          by_cases hclose : (Activity.resting session last).distance = 0
          · obtain ⟨session, hturn⟩ := h.isTurn hclose
            exact ⟨_, session, .begin, hturn⟩
          · obtain ⟨system', hadmits, hstep, hscene, hintime', hcloser⟩ := h.exists_wait hclose
            exact (ih _ (hdistance ▸ hcloser) hscene hintime' rfl).before hadmits hstep hintime' rfl
      | listening session goal stop =>
          obtain ⟨answers, place, hanswers, hhosts, hhas, hscene⟩ := id h
          cases hscene with
          | booting hbooting hleads hstop =>
              apply canType_of_progress hhosts hhas trivial trivial hintime
              intro world' events standing' hclock hhosts' hgoes hmoved hhas'
              cases hgoes with
              | stay => exact absurd rfl (hmoved rfl)
              | booted =>
                  have hscene' : (⟨world', .listening session (.boot _) stop⟩ : System σ).InScene
                      service config limit r :=
                    ⟨0, _, hanswers, hhosts', hhas', .booted hbooting hleads hstop⟩
                  have hintime' : (⟨world', .listening session (.boot _) stop⟩ : System σ).InTime :=
                    fun s a d hlistening => hclock ▸ hintime s a d hlistening
                  obtain ⟨system', hstep, hnext, hsoon, hcloser⟩ :=
                    hscene'.exists_hear_booted hhas' hbooting hleads hintime'
                  exact (ih _ (hdistance ▸ hcloser) hnext hsoon rfl).before (by trivial) hstep
                    hsoon rfl
          | booted hbooting hleads hstop =>
              obtain ⟨system', hstep, hnext, hsoon, hcloser⟩ :=
                h.exists_hear_booted hhas hbooting hleads hintime
              exact (ih _ (hdistance ▸ hcloser) hnext hsoon rfl).before (by trivial) hstep hsoon rfl
          | listening hsits hbusy htells =>
              have hattends : Attends service config limit r answers _ world session _ _ :=
                ⟨hhosts, hhas, hanswers, hbusy, _, hsits, htells⟩
              refine hattends.canType (fun system' hscene' hintime' hcloser => ?_) hlimit
              exact ih _ (hdistance ▸ hcloser) hscene' hintime' rfl
          | polling hsits hasked hcalm hbelow hcomes =>
              obtain ⟨system', hstep, hnext, hsoon, hcloser⟩ := h.exists_quiet hhas hsits hasked
              exact (ih _ (hdistance ▸ hcloser) hnext hsoon rfl).before (by trivial) hstep hsoon rfl

end System
end ScriptConsole
