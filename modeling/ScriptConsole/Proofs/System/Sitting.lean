import ScriptConsole.Proofs.System.Scene

/-!
A session at which a user sits shows what the reference shows.
-/

namespace ScriptConsole

variable {σ : Type}

/-- What the user typed first of these lines leads to the reference. -/
def System.InScene (service : Service σ) (config : Config) (limit : Nat) (r : Reference σ)
    (system : System σ) : Prop :=
  ∃ answers place, answers ≤ limit ∧ system.world.Hosts service config ∧
    system.world.Has service place ∧ Scene service config limit r answers place system.activity

/-- The session has not waited too long for its worker to boot. -/
def System.InTime (system : System σ) : Prop :=
  ∀ session after deadline, system.activity = .listening session (.boot after) (.instant deadline) →
    system.world.clock < deadline

/-- How far a session is from its next rest. -/
def Activity.distance : Activity → Nat
  | .acting (.write .empty _) none => 9
  | .acting (.spawn _) _ => 8
  | .acting (.post _ (.init _) _) _ => 7
  | .listening _ (.boot _) _ => 6
  | .listening _ (.poll _) _ => 5
  | .acting (.write (.line _ _ _) _) _ | .acting (.post _ (.run _) _) _ => 4
  | .resting _ (some (.ok reply)) => if reply.isUnfinished then 3 else 0
  | .listening _ (.wait _) _ => 2
  | .acting (.write .empty _) (some _) => 1
  | _ => 0

namespace System

variable {service : Service σ} {config : Config} {limit : Nat} {r : Reference σ}
  {system system' : System σ}

theorem InScene.work (h : system.InScene service config limit r) {worker : Nat}
    (hstep : system.step (.work worker) = some system') :
    system'.InScene service config limit r := by
  simp only [step, Option.bind_eq_bind, Option.bind_eq_some_iff, Option.pure_def,
    Option.some.injEq] at hstep
  obtain ⟨world', hwork, rfl⟩ := hstep
  obtain ⟨answers, place, hanswers, hhosts, hhas, hscene⟩ := h
  have hnone (hlanes : system.world.lanes = []) : False := by
    simp [World.work, hlanes] at hwork
  cases place with
  | vacant => exact (hnone hhas).elim
  | cleared => exact (hnone hhas.1).elim
  | taken standing outbox content =>
      obtain ⟨hhosts', events, standing', hgoes, hhas'⟩ := hhosts.work hhas hscene.heeds hwork
      exact ⟨answers, .taken _ _ _, hanswers, hhosts', hhas', hscene.goes hgoes⟩

theorem InScene.pass (h : system.InScene service config limit r) {milliseconds : Nat}
    (hstep : system.step (.pass milliseconds) = some system') :
    system'.InScene service config limit r := by
  cases hstep
  obtain ⟨answers, place, hanswers, hhosts, hhas, hscene⟩ := h
  refine ⟨answers, place, hanswers, hhosts.goes_on _ _, ?_, hscene⟩
  cases place with
  | vacant => exact hhas
  | cleared => exact hhas
  | taken standing outbox content => exact hhas

theorem step_write {world : World σ} (hhosts : world.Hosts service config) (content : Content)
    (next : Except BufferError Unit → Move) (kept : Option Until) :
    ∃ storage, step ⟨world, .acting (.write content next) kept⟩ .deed =
        some ⟨{ world with storage }, .ofMove world.clock kept (next (.ok ()))⟩ ∧
      world.buffer.Holds content storage ∧
      ({ world with storage } : World σ).Hosts service config := by
  obtain ⟨storage, hwrite, hholds, hhosts'⟩ := hhosts.write content
  refine ⟨storage, ?_, hholds, hhosts'⟩
  simp only [step, Deed.step?, World.host, hwrite, Option.bind_eq_bind, Option.bind_some,
    Option.pure_def]
  rfl

theorem step_post {world : World σ} {lane : Lane σ} {standing : Standing σ}
    (hlanes : world.lanes = [lane]) (hstands : lane.Stands service standing) (command : Command)
    (next : Except TransportError Unit → Move) (kept : Option Until) :
    step ⟨world, .acting (.post 0 command next) kept⟩ .deed =
      some ⟨{ world with lanes := [{ lane with inbox := lane.inbox ++ [command] }] },
        .ofMove world.clock kept (next (.ok ()))⟩ := by
  simp only [step, Deed.step?, World.host, World.post_of_stands hlanes hstands command,
    Option.bind_eq_bind, Option.bind_some, Option.pure_def]
  rfl

theorem step_spawn {world : World σ} (hhosts : world.Hosts service config)
    (hlanes : world.lanes = []) (next : Except TransportError Unit → Move) :
    step ⟨world, .acting (.spawn next) none⟩ .deed =
      some ⟨{ world with lanes := [.new (.new service.interpreter service.source)] },
        .ofMove world.clock none (next (.ok ()))⟩ := by
  simp only [step, Deed.step?, World.host, hhosts.spawn hlanes, Option.bind_eq_bind,
    Option.bind_some, Option.pure_def]
  rfl

theorem lt_of_from_ofLimit {limit : Option Duration} {now deadline : Nat}
    (hlimit : ∀ duration, limit = some duration → 0 < duration.milliseconds)
    (hfrom : (Patience.ofLimit limit).from now = .instant deadline) : now < deadline := by
  cases limit with
  | none => cases hfrom
  | some duration =>
      cases hfrom
      exact Nat.lt_add_of_pos_right (hlimit duration rfl)

theorem from_ofLimit_ne_drained (limit : Option Duration) (now : Nat) :
    (Patience.ofLimit limit).from now ≠ .drained := by
  cases limit with
  | none => rintro ⟨⟩
  | some limit => rintro ⟨⟩

/-- A session that has deeds to do can do the next one, and gets closer to its next rest. -/
theorem InScene.exists_deed (h : system.InScene service config limit r) {move : Move}
    {kept : Option Until} (hactivity : system.activity = .acting move kept) :
    ∃ system', system.step .deed = some system' ∧ system'.InScene service config limit r ∧
      system'.activity.distance < system.activity.distance ∧
      ((∀ limit, config.initTimeout = some limit → 0 < limit.milliseconds) → system'.InTime) := by
  obtain ⟨world, activity⟩ := system
  obtain ⟨answers, place, hanswers, hhosts, hhas, hscene⟩ := h
  obtain rfl : activity = .acting move kept := hactivity
  cases hscene with
  | @clearing session shown after next hfresh hleads hnext =>
      obtain ⟨storage, hstep, hholds, hhosts'⟩ := step_write hhosts .empty next none
      obtain ⟨more, again, session', hspawn, hmore, hagain, hbooting, hstatements, hlast⟩ :=
        hfresh.spawn after
      rw [hnext, hspawn] at hstep
      refine ⟨_, hstep, ⟨0, .cleared, hanswers, hhosts', ⟨hhas, hholds⟩,
        .spawning hbooting (hleads.alike hstatements hlast) hmore hagain⟩,
        Nat.lt_succ_self 8, fun _ => by rintro _ _ _ ⟨⟩⟩
  | @spawning session shown after next more hbooting hleads hnext hmore =>
      have hsetup : Command.boot config service.setup.bufferUrl = .init service.setup := by
        rw [hhosts.url]
        exact hhosts.setup
      have hstep := step_spawn hhosts hhas.1 next
      rw [hnext, hsetup] at hstep
      exact ⟨_, hstep, ⟨0, .taken _ _ _, hanswers, hhosts.goes_on _ _,
        ⟨hhas.2, _, rfl, .unborn, rfl, by rintro _ ⟨⟩⟩, .calling hbooting hleads hmore⟩,
        Nat.lt_succ_self 7, fun _ => by rintro _ _ _ ⟨⟩⟩
  | @calling session shown after next hbooting hleads hnext =>
      obtain ⟨hholds, lane, hlanes, hstands, houtbox, hreads⟩ := hhas
      have hstep := step_post hlanes hstands (.init service.setup) next none
      rw [hnext, hbooting.awaitBoot] at hstep
      -- This is the one deed behind which the session listens with a limit.
      refine ⟨_, hstep, ⟨0, .taken _ _ _, hanswers, hhosts.goes_on _ _,
        ⟨hholds, _, rfl, hstands.call, houtbox, hreads⟩,
        .booting hbooting hleads (from_ofLimit_ne_drained _ _)⟩,
        Nat.lt_succ_self 6, fun hpatient => ?_⟩
      rintro _ _ deadline hlistening
      have hfrom := (Activity.listening.inj hlistening).2.2
      rw [Session.patience, hbooting.config] at hfrom
      exact lt_of_from_ofLimit hpatient hfrom
  | @posting session shown _ live content code next kept hsits hstatements hcalm hcomes hnext =>
      obtain ⟨hholds, lane, hlanes, hstands, houtbox, hreads⟩ := hhas
      have hstep := step_post hlanes hstands (.run code) next kept
      rw [hnext] at hstep
      have hahead : (Standing.running live.bridge
          (Reference.execute service.interpreter code live.state)).Ahead answers content
          (Reference.execute service.interpreter code live.state) := .running hcalm
      exact ⟨_, hstep, ⟨answers, .taken _ _ _, hanswers, hhosts.goes_on _ _,
        ⟨hholds, _, rfl, hstands.post _, houtbox, hreads⟩,
        .running { hsits with } ⟨rfl, hstatements⟩
          (hahead.tells hcomes) rfl⟩,
        Nat.lt_succ_self 3, fun _ => by rintro _ _ _ ⟨⟩⟩
  | @opening session shown _ content bridge request prompt more next stop hsits hbusy hcalm hpause
      hstatements hentries hnext =>
      obtain ⟨storage, hstep, hholds, hhosts'⟩ := step_write hhosts .empty next (some stop)
      obtain ⟨session', hmove, hsits', hasked⟩ := hsits.openRequest hbusy request prompt
      obtain ⟨-, lane, hlanes, hstands, houtbox, hreads⟩ := hhas
      rw [hnext, hmove] at hstep
      rw [← hentries] at hsits'
      exact ⟨_, hstep, ⟨answers, .taken _ _ _, hanswers, hhosts',
        ⟨hholds, lane, hlanes, hstands, houtbox, hreads⟩,
        .asked hsits' hasked hcalm.cleared hpause hstatements⟩,
        Nat.lt_succ_self 0, fun _ => by rintro _ _ _ ⟨⟩⟩
  | @answering session shown _ content bridge request answer kept more next hsits hbusy hcalm
      hlimit hcomes hnext =>
      obtain ⟨storage, hstep, hholds, hhosts'⟩ :=
        step_write hhosts (.line request (UInt64.ofNat answers) answer) next kept
      obtain ⟨-, lane, hlanes, hstands, houtbox, hreads⟩ := hhas
      rw [hnext] at hstep
      have hahead : (Standing.asking bridge request more).Ahead (answers + 1)
          (.line request (UInt64.ofNat answers) answer) (more (.ok answer)) :=
        .answered (Nat.lt_succ_self answers) hcalm.before rfl
      exact ⟨_, hstep, ⟨answers + 1, .taken _ _ _, hlimit, hhosts',
        ⟨hholds, lane, hlanes, hstands, houtbox, hreads⟩,
        .running hsits hbusy (hahead.tells hcomes) rfl⟩,
        Nat.lt_succ_self 3, fun _ => by rintro _ _ _ ⟨⟩⟩

theorem InScene.deed (h : system.InScene service config limit r)
    (hstep : system.step .deed = some system') : system'.InScene service config limit r := by
  cases hactivity : system.activity with
  | acting move kept =>
      obtain ⟨next, hnext, hscene, -⟩ := h.exists_deed hactivity
      cases hstep.symm.trans hnext
      exact hscene
  | _ => simp [step, hactivity] at hstep

theorem step_hear {world : World σ} {session : Session} {listening : Listening} {stop : Until}
    {standing : Standing σ} {outbox : List Event} {content : Content}
    (hlive : session.live = some 0) (hhas : world.Has service (.taken standing outbox content))
    (hstep : step ⟨world, .listening session listening stop⟩ .hear = some system') :
    ∃ event events lane, outbox = event :: events ∧
      World.Has ({ world with lanes := [lane] } : World σ) service
        (.taken standing events content) ∧
      system' = ⟨{ world with lanes := [lane] },
        .ofMove world.clock (some stop) (session.hear listening (.event event))⟩ := by
  obtain ⟨hholds, lane, hlanes, hstands, rfl, hreads⟩ := hhas
  simp only [step, hlive, Option.bind_eq_bind, Option.bind_some, Option.bind_eq_some_iff,
    Prod.exists] at hstep
  obtain ⟨event, world', hevent, hmay⟩ := hstep
  simp only [World.event?, hlanes, List.getElem?_cons_zero, Option.bind_eq_bind,
    Option.bind_some] at hevent
  split at hmay
  · cases hmay
    split at hevent
    · cases hevent
    · rename_i houtbox
      cases hevent
      exact ⟨_, _, _, houtbox, ⟨hholds, _, rfl, hstands.heard _, rfl, hreads⟩, rfl⟩
  · cases hmay

theorem InScene.hear (h : system.InScene service config limit r)
    (hstep : system.step .hear = some system') : system'.InScene service config limit r := by
  obtain ⟨world, activity⟩ := system
  obtain ⟨answers, place, hanswers, hhosts, hhas, hscene⟩ := h
  cases hscene with
  | booting hbooting hleads hstop =>
      obtain ⟨event, events, lane, hempty, -⟩ := step_hear hbooting.live hhas hstep
      cases hempty
  | booted hbooting hleads hstop =>
      obtain ⟨event, events, lane, hevents, hhas', rfl⟩ := step_hear hbooting.live hhas hstep
      cases hevents
      obtain ⟨session', hmove, hsits, hpending, hstatements, hlast⟩ := hbooting.hear _
      have hcalm : (Worker.newBridge service.setup).Calm .empty 0 := ⟨rfl, by rintro _ ⟨⟩⟩
      rw [hmove]
      cases hleads.alike hstatements hlast with
      | reply htyping hentries hpause =>
          rw [← hentries] at hsits
          exact ⟨0, .taken _ _ _, hanswers, hhosts.goes_on _ _, hhas',
            .idle hsits hpending htyping hcalm hpause (.inr ⟨_, rfl, rfl⟩)⟩
      | run hempty hcomes =>
          obtain ⟨next, hpost, hnext⟩ := hsits.postRun _ _
          rw [Session.afterBoot, hpost]
          exact ⟨0, .taken _ _ _, hanswers, hhosts.goes_on _ _, hhas',
            .posting hsits hempty hcalm hcomes hnext⟩
  | listening hsits hbusy htells =>
      obtain ⟨event, events, lane, rfl, hhas', rfl⟩ := step_hear hsits.live hhas hstep
      rcases htells.hear with ⟨hwrite, htells'⟩ |
        ⟨rfl, hstatements, hentries, bridge, request, prompt, more, rfl, rfl, hcalm, hpause⟩ |
        ⟨rfl, hstatements, hentries, live, outcome, rfl, rfl, hcalm, hpause, hlast⟩
      · obtain ⟨session', hmove, hsits', hbusy'⟩ := hsits.hear_write hbusy hwrite
        rw [hmove]
        exact ⟨answers, .taken _ _ _, hanswers, hhosts.goes_on _ _, hhas',
          .listening hsits' hbusy' htells'⟩
      · rw [Session.hear_input]
        exact ⟨answers, .taken _ _ _, hanswers, hhosts.goes_on _ _, hhas',
          .opening hsits hbusy hcalm hpause hstatements hentries rfl⟩
      · obtain ⟨session', hmove, hsits', hpending, hempty, hlast'⟩ := hsits.hear_run hbusy outcome
        rw [hmove]
        rw [← hentries] at hsits'
        have htyping : r.statements.awaitingInput = false := by
          rw [hstatements]
          rfl
        exact ⟨answers, .taken _ _ _, hanswers, hhosts.goes_on _ _, hhas',
          .idle hsits' hpending ⟨hempty.trans hstatements.symm, htyping, hlast'.trans hlast.symm⟩
            hcalm hpause (.inr ⟨_, rfl, rfl⟩)⟩
  | polling hsits =>
      -- The worker has asked for the line and says nothing until it has it.
      obtain ⟨event, events, lane, hempty, -⟩ := step_hear hsits.live hhas hstep
      cases hempty
  | _ => cases hstep

theorem InScene.quiet (h : system.InScene service config limit r) (hintime : system.InTime)
    (hstep : system.step .quiet = some system') : system'.InScene service config limit r := by
  obtain ⟨world, activity⟩ := system
  obtain ⟨answers, place, hanswers, hhosts, hhas, hscene⟩ := h
  have hboot {session : Session} {after : AfterBoot} {stop : Until}
      (hactivity : activity = .listening session (.boot after) stop)
      (hlive : session.live = some 0) (hstop : stop ≠ .drained) : False := by
    subst hactivity
    simp only [step, hlive, Option.bind_eq_bind, Option.bind_some] at hstep
    split at hstep
    · rename_i hmay
      cases stop with
      | drained => exact hstop rfl
      | forever => cases hmay
      | instant deadline =>
        have hdeadline := hintime _ _ _ rfl
        simp only [mayStop, decide_eq_true_eq] at hmay
        exact absurd hmay (Nat.not_le_of_lt hdeadline)
    · cases hstep
  cases hscene with
  | booting hbooting hleads hstop => exact (hboot rfl hbooting.live hstop).elim
  | booted hbooting hleads hstop => exact (hboot rfl hbooting.live hstop).elim
  | listening hsits hbusy htells =>
      simp only [step, hsits.live, Option.bind_eq_bind, Option.bind_some, mayStop] at hstep
      cases hstep
  | polling hsits hasked hcalm hlimit hcomes =>
      simp only [step, hsits.live, Option.bind_eq_bind, Option.bind_some] at hstep
      split at hstep
      · cases hstep
        obtain ⟨next, session', hmove, hnext, hsits', hbusy⟩ := hasked.answer hsits _
        rw [tell, hmove]
        exact ⟨answers, .taken _ _ _, hanswers, hhosts, hhas,
          .answering hsits' hbusy hcalm hlimit hcomes hnext⟩
      · cases hstep
  | _ => cases hstep

theorem InScene.not_gone (h : system.InScene service config limit r) :
    system.step .gone ≠ some system' := by
  intro hstep
  obtain ⟨world, activity⟩ := system
  obtain ⟨answers, place, hanswers, hhosts, hhas, hscene⟩ := h
  have hthere {session : Session} {listening : Listening} {stop : Until} {standing : Standing σ}
      {outbox : List Event} {content : Content}
      (hactivity : activity = .listening session listening stop) (hlive : session.live = some 0)
      (hhas : world.Has service (.taken standing outbox content)) : False := by
    obtain ⟨-, lane, hlanes, hstands, -⟩ := hhas
    subst hactivity
    simp only [step, hlive, Option.bind_eq_bind, Option.bind_some, World.isGone, hlanes,
      List.getElem?_cons_zero, hstands.goes.2, Bool.false_and, Bool.false_eq_true,
      if_false] at hstep
    cases hstep
  cases hscene with
  | booting hbooting => exact hthere rfl hbooting.live hhas
  | booted hbooting => exact hthere rfl hbooting.live hhas
  | listening hsits => exact hthere rfl hsits.live hhas
  | polling hsits => exact hthere rfl hsits.live hhas
  | _ => cases hstep

theorem InScene.line (h : system.InScene service config limit r) {session : Session}
    {last : Option (Except SessionError Reply)} (hrests : system.activity = .resting session last)
    (hturn : ∀ reply, last = some (.ok reply) → reply.isUnfinished = false) {text : String}
    (hstep : system.step (.call (.line text)) = some system') :
    system'.InScene service config (limit + 1) (r.line service.interpreter text) := by
  obtain ⟨world, activity⟩ := system
  obtain ⟨answers, place, hanswers, hhosts, hhas, hscene⟩ := h
  obtain rfl : activity = .resting session last := hrests
  cases hstep
  rw [act]
  cases hscene with
  | fresh hfresh hpending htyping houtcomes hpause hmay =>
      rcases session.line_cases hpending (htyping.statements ▸ htyping.typing) text with
        ⟨code, hpush, hcall⟩ | ⟨outcome, statements, hpush, hawaiting, hpart, hfinished, hcall⟩
      · rw [htyping.statements] at hpush
        obtain ⟨next, session', hlaunch, hnext, hfresh', -, hempty, -⟩ :=
          (hfresh.record code).launch hpending rfl _
        rw [hcall, (hfresh.record code).submit hpending, hlaunch]
        exact ⟨0, .vacant, Nat.zero_le _, hhosts, hhas,
          .clearing hfresh' (.run hempty (Reference.comes_of_statement hpause hpush)) hnext⟩
      · rw [htyping.statements] at hpush
        rw [hcall, Reference.line_part hpause hpush hpart]
        exact ⟨0, .vacant, Nat.zero_le _, hhosts, hhas,
          .fresh (hfresh.withStatements statements) hpending ⟨rfl, hawaiting, htyping.lastRun⟩
            houtcomes hpause (.inr ⟨_, rfl, hfinished⟩)⟩
  | idle hsits hpending htyping hcalm hpause hmay =>
      rcases session.line_cases hpending (htyping.statements ▸ htyping.typing) text with
        ⟨code, hpush, hcall⟩ | ⟨outcome, statements, hpush, hawaiting, hpart, hfinished, hcall⟩
      · rw [htyping.statements] at hpush
        obtain ⟨next, hpost, hnext⟩ := (hsits.record code).postRun code (.line (.statement code))
        rw [hcall, (hsits.record code).submit hpending, hpost]
        exact ⟨answers, .taken _ _ _, Nat.le_succ_of_le hanswers, hhosts, hhas,
          .posting (hsits.record code) rfl hcalm (Reference.comes_of_statement hpause hpush) hnext⟩
      · rw [htyping.statements] at hpush
        rw [hcall, Reference.line_part hpause hpush hpart]
        exact ⟨answers, .taken _ _ _, Nat.le_succ_of_le hanswers, hhosts, hhas,
          .idle (hsits.withStatements statements) hpending ⟨rfl, hawaiting, htyping.lastRun⟩
            hcalm hpause (.inr ⟨_, rfl, hfinished⟩)⟩
  | running hsits hbusy htells hunfinished =>
      exact absurd (hunfinished.symm.trans (hturn _ rfl)) (by simp)
  | asked hsits hasked hcalm hpause hstatements =>
      rw [hasked.line hsits.live, Reference.line_asking hpause]
      exact ⟨answers, .taken _ _ _, Nat.le_succ_of_le hanswers, hhosts, hhas,
        .polling hsits hasked hcalm (Nat.lt_succ_of_le hanswers) ⟨r, hstatements, rfl⟩⟩

theorem InScene.wait (h : system.InScene service config limit r) {session : Session} {reply : Reply}
    (hrests : system.activity = .resting session (some (.ok reply)))
    (hturn : reply.isUnfinished = true)
    (hstep : system.step (.call (.wait none)) = some system') :
    system'.InScene service config limit r := by
  obtain ⟨world, activity⟩ := system
  obtain ⟨answers, place, hanswers, hhosts, hhas, hscene⟩ := h
  obtain rfl : activity = .resting session (some (.ok reply)) := hrests
  have hmay (hmay : MayType (some (.ok reply))) : False := by
    cases hturn.symm.trans (hmay.finished rfl)
  cases hstep
  rw [act]
  cases hscene with
  | fresh hfresh hpending htyping houtcomes hpause hmay' => exact (hmay hmay').elim
  | idle hsits hpending htyping hcalm hpause hmay' => exact (hmay hmay').elim
  | asked => cases hturn
  | running hsits hbusy htells hunfinished =>
      rw [show session.call (.wait none) = _ from hbusy.awaitQuiet hsits.live none]
      exact ⟨answers, .taken _ _ _, hanswers, hhosts, hhas, .listening hsits hbusy htells⟩

theorem InScene.start (h : system.InScene service config limit r) {session : Session}
    (hrests : system.activity = .resting session none) (hlanes : system.world.lanes = [])
    (hstep : system.step (.call .start) = some system') :
    system'.InScene service config limit r := by
  obtain ⟨world, activity⟩ := system
  obtain ⟨answers, place, hanswers, hhosts, hhas, hscene⟩ := h
  obtain rfl : activity = .resting session none := hrests
  cases hstep
  rw [act]
  cases hscene with
  | fresh hfresh hpending htyping houtcomes hpause hmay =>
      obtain ⟨next, session', hlaunch, hnext, hfresh', -, hstatements, hlast⟩ :=
        hfresh.launch hpending (htyping.statements ▸ htyping.typing) .reply
      rw [show session.call .start = _ from hlaunch]
      have htyping' : session'.IsTyping r :=
        ⟨hstatements.trans htyping.statements, htyping.typing, hlast.trans htyping.lastRun⟩
      exact ⟨0, .vacant, hanswers, hhosts, hhas,
        .clearing hfresh' (.reply htyping' rfl hpause) hnext⟩
  | idle hsits hpending htyping hcalm hpause hmay =>
      obtain ⟨-, lane, hsome, -⟩ := hhas
      cases hlanes.symm.trans hsome

end System
end ScriptConsole
