import ScriptConsole.Proofs.System.Onward

/-!
A user who follows a program: they wait and answer what the program asks. Where the session pauses,
it shows what the program recites with these answers, and it can always get to pause.
-/

namespace ScriptConsole

variable {σ : Type}

/-- The line with which the user answers in a step, if they do. -/
def Label.answers : Label → List String
  | .call made => made.answer?.toList
  | _ => []

namespace System

/-- The steps while a user follows a program. The user waits, but not without a limit for a
program that waits for them, and answers a program that waits for a line; all else happens in any
order. Any worker but the one with this number may break off. -/
def Lets (system : System σ) (number : Nat) : Label → Prop
  | .call (.wait limit) => ∀ session last, system.activity = .resting session last →
      session.isAwaitingInput = true → limit ≠ none
  | .call (.line _) | .call (.deliver _) =>
      ∃ session last, system.activity = .resting session last ∧ session.isAwaitingInput = true
  | .call _ | .jam _ => False
  | .crash worker => worker ≠ number
  | .deed | .hear | .quiet | .gone | .work _ | .pass _ => True

/-- A user who follows a program, with these answers, gets from one state of the system to the
other, while the session never waits too long for its worker to boot. -/
inductive Following (number : Nat) (begin : System σ) : List String → System σ → Prop where
  | begin : Following number begin [] begin
  | step {answers : List String} {system system' : System σ} {label : Label}
      (h : Following number begin answers system) (hstep : system.step label = some system')
      (hlets : system.Lets number label) (hintime : system'.InTime) :
      Following number begin (answers ++ label.answers) system'

/-- The session rests, and nothing goes on but what waits for the user. -/
def Pauses (system : System σ) (session : Session) : Prop :=
  (∃ last, system.activity = .resting session last) ∧
    (session.isRunPending = true → session.isAwaitingInput = true)

/-- Without an answer the user can get to where nothing goes on but what waits for them. -/
def CanPause (number : Nat) (system : System σ) : Prop :=
  ∃ system' session, system.Following number [] system' ∧ system'.Pauses session

variable {staff : Staff σ} {url code : String} {number start : Nat} {answers more : List String}
  {system system' system'' : System σ}

theorem Following.trans (h : system.Following number answers system')
    (h' : system'.Following number more system'') :
    system.Following number (answers ++ more) system'' := by
  induction h' with
  | begin => rwa [List.append_nil]
  | step _ hstep hlets hintime ih =>
      rw [← List.append_assoc]
      exact ih.step hstep hlets hintime

theorem Pauses.canPause {session : Session} (h : system.Pauses session) :
    system.CanPause number :=
  ⟨system, session, .begin, h⟩

theorem CanPause.of_following (h : system'.CanPause number)
    (hfollowing : system.Following number [] system') : system.CanPause number := by
  obtain ⟨paused, session, hmore, hpauses⟩ := h
  exact ⟨paused, session, hfollowing.trans hmore, hpauses⟩

section Pause

variable {session : Session} {last : Option (Except SessionError Reply)}

theorem pauses_of_asked {request : UInt64} {prompt : Option String}
    (h : session.HasAskedFor request prompt) (hrests : system.activity = .resting session last) :
    system.Pauses session := by
  constructor
  · exact ⟨last, hrests⟩
  · intro _
    exact h.isAwaitingInput

theorem pauses_of_ended {outcome : RunOutcome} (h : session.HasEnded outcome)
    (hrests : system.activity = .resting session last) : system.Pauses session := by
  constructor
  · exact ⟨last, hrests⟩
  · intro hpending
    rw [h.isRunPending] at hpending
    cases hpending

end Pause

/-- The session is on its way through a program, with nothing amiss about any of its workers. -/
structure Underway (staff : Staff σ) (url : String) (number start : Nat) (code : String)
    (answers : List String) (system : System σ) : Prop where
  follows : ∃ config source log, system.Follows config source log
  intime : system.InTime
  passage : system.InPassage staff url number start code answers

theorem Underway.after (h : system.Underway staff url number start code answers) {label : Label}
    (hstep : system.step label = some system') (hlets : system.Lets number label)
    (hintime : system'.InTime) :
    system'.Underway staff url number start code (answers ++ label.answers) := by
  obtain ⟨config, source, log, hfollows⟩ := h.follows
  have hsame (hpassage : system'.InPassage staff url number start code answers) :
      system'.InPassage staff url number start code (answers ++ []) := by
    rwa [List.append_nil]
  constructor
  · exact ⟨config, source, _, hfollows.step hstep⟩
  · exact hintime
  · cases label with
    | call call =>
        cases call with
        | wait limit => exact hsame (h.passage.wait hlets hstep)
        | line text =>
            obtain ⟨session, last, hrests, hawaiting⟩ := hlets
            exact h.passage.answer hrests hawaiting rfl hstep
        | deliver text =>
            obtain ⟨session, last, hrests, hawaiting⟩ := hlets
            exact h.passage.answer hrests hawaiting rfl hstep
        | _ => exact hlets.elim
    | deed => exact hsame (h.passage.deed hstep)
    | hear => exact hsame (h.passage.hear hstep)
    | quiet => exact hsame (h.passage.quiet h.intime hstep)
    | gone => exact absurd hstep h.passage.not_gone
    | work worker => exact hsame (h.passage.work hfollows.tends.toHouses hstep)
    | crash worker => exact hsame (h.passage.crash hlets hstep)
    | pass milliseconds => exact hsame (h.passage.pass hstep)
    | jam cause => exact hlets.elim

theorem Following.underway (h : system.Following number more system')
    (hunderway : system.Underway staff url number start code answers) :
    system'.Underway staff url number start code (answers ++ more) := by
  induction h with
  | begin => rwa [List.append_nil]
  | step _ hstep hlets hintime ih =>
      rw [← List.append_assoc]
      exact ih.after hstep hlets hintime

theorem Underway.silent (h : system.Underway staff url number start code answers)
    (hfollowing : system.Following number [] system') :
    system'.Underway staff url number start code answers := by
  have hafter := hfollowing.underway h
  rwa [List.append_nil] at hafter

theorem Underway.canPause_of_step (h : system.Underway staff url number start code answers)
    {label : Label} (hstep : system.step label = some system') (hlets : system.Lets number label)
    (hintime : system'.InTime) (hanswers : label.answers = [])
    (hcan : system'.Underway staff url number start code answers → system'.CanPause number) :
    system.CanPause number := by
  have hfirst := Following.begin.step hstep hlets hintime
  rw [hanswers] at hfirst
  exact (hcan (h.silent hfirst)).of_following hfirst

/-- Where the session pauses, it shows what the program recites with these answers. -/
theorem InPassage.recites (h : system.InPassage staff url number start code answers)
    {session : Session} (hpauses : system.Pauses session) :
    ∃ given shown halt, (staff.begun code).recite answers = ⟨shown, halt⟩ ∧
      session.Employs number given shown ∧ session.Halts halt := by
  obtain ⟨world, activity⟩ := system
  obtain ⟨place, -, -, hpassage⟩ := h
  obtain ⟨⟨last, hrests⟩, hquiet⟩ := hpauses
  obtain rfl : activity = .resting session last := hrests
  cases hpassage with
  | running hemploys hengaged htells =>
      rw [Session.isRunPending, hengaged.pending, Session.isAwaitingInput,
        hengaged.statements] at hquiet
      cases hquiet rfl
  | asked hemploys hasked hasks => exact ⟨_, _, _, hasks.recite, hemploys, _, hasked⟩
  | ended hemploys hended hrecital => exact ⟨_, _, _, hrecital, hemploys, hended⟩

/-! ### That the program gets there -/

section Worker

variable {ahead : Work (Option (Worker σ))} {outbox : List Event} {content : Content}

theorem Underway.advance (h : system.Underway staff url number start code answers)
    (hseats : system.world.Seats number (.taken ahead outbox content))
    (hready : ahead.IsReady content) :
    ∃ world events ahead', system.Following number [] ⟨world, system.activity⟩ ∧
      ahead.Advances content events ahead' ∧
      world.Seats number (.taken ahead' (outbox ++ events) content) := by
  obtain ⟨lane, hlane⟩ : ∃ lane, system.world.lanes[number]? = some lane := by
    obtain ⟨-, lane, hlane, -⟩ := hseats
    exact ⟨lane, hlane⟩
  -- Every step that does not do it brings it nearer.
  induction hdelay : lane.delay using Nat.strongRecOn generalizing system lane with
  | ind n ih =>
      obtain ⟨hholds, seated, hseated, hopen, hahead, houtbox⟩ := id hseats
      obtain rfl : lane = seated := Option.some.inj (hlane.symm.trans hseated)
      obtain ⟨config, source, log, hfollows⟩ := h.follows
      obtain ⟨place, -, hseats', hpassage⟩ := h.passage
      have hheeds := hpassage.heeds
      rw [hseats.unique hseats'] at hheeds
      have hhouses := hfollows.tends.toHouses
      obtain ⟨lane', hlaneStep, hopen', hproceeds⟩ :
          ∃ lane', lane.step system.world.channel system.world.buffer system.world.clock
              system.world.storage = some (lane', system.world.storage) ∧
            lane'.stopped = false ∧ lane.Proceeds content lane' :=
        Lane.exists_step hopen (hhouses.sane number lane hlane) (hhouses.named hlane) hholds
          (hahead ▸ hheeds) (hahead ▸ hready)
      let world' : World σ := { system.world with lanes := system.world.lanes.set number lane' }
      have hset : world'.lanes[number]? = some lane' := by
        rw [World.lookup_set hlane, if_pos rfl]
      have hstep : system.step (.work number) = some ⟨world', system.activity⟩ := by
        simp only [System.step, World.work, hlane, hlaneStep, Option.bind_eq_bind, Option.bind_some,
          Option.pure_def]
        rfl
      have hintime : (⟨world', system.activity⟩ : System σ).InTime := h.intime
      have hfirst : system.Following number [] ⟨world', system.activity⟩ :=
        Following.begin.step hstep trivial hintime
      cases hproceeds with
      | advances events hadvances houtbox' =>
          rw [hahead] at hadvances
          rw [houtbox] at houtbox'
          exact ⟨world', events, _, hfirst, hadvances, hholds, lane', hset, hopen', rfl, houtbox'⟩
      | nears hahead' houtbox' hnearer =>
          obtain ⟨world, events, ahead', hfollowing, hadvances, hseats⟩ :=
            ih _ (hdelay ▸ hnearer (hahead ▸ hready)) (h.silent hfirst)
              ⟨hholds, lane', hset, hopen', hahead'.trans hahead, houtbox'.trans houtbox⟩ lane'
              hset rfl
          exact ⟨world, events, ahead', hfirst.trans hfollowing, hadvances, hseats⟩

theorem Underway.goes_on (h : system.Underway staff url number start code answers)
    (hseats : system.world.Seats number (.taken ahead outbox content)) :
    ∃ world ahead' outbox', system.Following number [] ⟨world, system.activity⟩ ∧
      ¬ ahead'.IsReady content ∧ world.Seats number (.taken ahead' outbox' content) := by
  -- The induction is on what is ahead: each of its first things leads to a part of it.
  induction ahead generalizing system outbox with
  | done result => exact ⟨_, _, _, .begin, id, hseats⟩
  | post event next ih =>
      obtain ⟨world, events, ahead', hfollowing, hadvances, hseats'⟩ := h.advance hseats trivial
      cases hadvances with
      | post =>
          obtain ⟨world', ahead', outbox', hrest, hends⟩ :=
            ih (.ok ()) (h.silent hfollowing) hseats'
          exact ⟨world', ahead', outbox', hfollowing.trans hrest, hends⟩
  | openBuffer url interval next ih =>
      obtain ⟨world, events, ahead', hfollowing, hadvances, hseats'⟩ := h.advance hseats trivial
      cases hadvances with
      | opened =>
          obtain ⟨world', ahead', outbox', hrest, hends⟩ :=
            ih (.ok ()) (h.silent hfollowing) hseats'
          exact ⟨world', ahead', outbox', hfollowing.trans hrest, hends⟩
  | await bridge request next ih =>
      by_cases hready : content.isNewerThan bridge.lastSequence = true
      · obtain ⟨world, events, ahead', hfollowing, hadvances, hseats'⟩ := h.advance hseats hready
        cases hadvances with
        | answered hcontent hnewer =>
            obtain ⟨world', ahead', outbox', hrest, hends⟩ :=
              ih _ _ (h.silent hfollowing) hseats'
            exact ⟨world', ahead', outbox', hfollowing.trans hrest, hends⟩
      · exact ⟨_, .await bridge request next, _, .begin, hready, hseats⟩

end Worker

variable {session : Session} {limit : Option Duration} {ahead : Work (Option (Worker σ))}
  {outbox : List Event} {content : Content}

theorem ready_of_tells {begun : Execution σ} {given : Nat} {shown : List Entry}
    (hgiven : given ≤ UInt64.size)
    (h : Work.Tells begun answers given content shown ahead []) : ahead.IsReady content := by
  generalize hnil : ([] : List Event) = outbox at h
  cases h with
  | @running worker bridge execution hcalm huntimed hwrites hleads =>
      obtain ⟨event, next, hpost⟩ := Work.exists_script worker bridge execution
      rw [hpost]
      exact trivial
  | answered hbefore hnumber hcontent huntimed hleads =>
      rw [hcontent]
      exact hbefore.isNewerThan (Nat.lt_of_lt_of_le hnumber hgiven) _ _
  | asked => simp at hnil
  | ended => simp at hnil

theorem Underway.canPause_opening (h : system.Underway staff url number start code answers)
    {next : Except BufferError Unit → Move} {stop : Until}
    (hacts : system.activity = .acting (.write .empty next) (some stop)) :
    system.CanPause number := by
  obtain ⟨world, activity⟩ := system
  obtain ⟨place, hengages, hseats, hpassage⟩ := h.passage
  obtain rfl : activity = .acting (.write .empty next) (some stop) := hacts
  cases hpassage with
  | opening hnext hemploys hengaged hasks =>
      -- With the buffer cleared the user learns of the request.
      obtain ⟨storage, session', last, hstep, -, -, -, hasked⟩ :=
        step_opening hengages hseats hnext hemploys hengaged
      apply h.canPause_of_step hstep trivial (by rintro _ _ _ ⟨⟩) rfl
      intro _
      exact (pauses_of_asked hasked rfl).canPause

theorem Underway.canPause_hearing (h : system.Underway staff url number start code answers)
    (hgiven : start + answers.length ≤ UInt64.size)
    (hlistens : system.activity = .listening session (.wait limit) .forever)
    (hseats : system.world.Seats number (.taken ahead outbox content))
    (hready : ¬ ahead.IsReady content) : system.CanPause number := by
  induction outbox generalizing system session with
  | nil =>
      obtain ⟨world, activity⟩ := system
      obtain ⟨place, -, hseats', hpassage⟩ := h.passage
      obtain rfl : activity = .listening session (.wait limit) .forever := hlistens
      cases hseats.unique hseats'
      cases hpassage with
      | listening hemploys hengaged htells hstop =>
          exact absurd (ready_of_tells hgiven htells) hready
  | cons event events ih =>
      obtain ⟨world, activity⟩ := system
      obtain ⟨place, hengages, hseats', hpassage⟩ := h.passage
      obtain rfl : activity = .listening session (.wait limit) .forever := hlistens
      cases hseats.unique hseats'
      cases hpassage with
      | @listening _ _ _ _ shown _ _ _ hemploys hengaged htells hstop =>
          have hmay : mayHear ⟨world, .listening session (.wait limit) .forever⟩ .forever = true :=
            rfl
          obtain ⟨lanes, hstep, hleft⟩ := exists_hear hemploys.live hseats hmay
          rcases htells.hear with ⟨hwrite, -⟩ | ⟨rfl, request, prompt, rfl, -⟩ |
            ⟨rfl, left, outcome, rfl, rfl, -⟩
          · obtain ⟨session', hmove, -⟩ := hemploys.hear_write hengaged hwrite limit
            rw [hmove] at hstep
            apply h.canPause_of_step hstep trivial (by rintro _ _ _ ⟨⟩) rfl
            intro hunderway
            exact ih hunderway rfl hleft
          · rw [Session.hear_input] at hstep
            apply h.canPause_of_step hstep trivial (by rintro _ _ _ ⟨⟩) rfl
            intro hunderway
            exact hunderway.canPause_opening rfl
          · obtain ⟨session', hmove, -, hended⟩ := hemploys.hear_run hengaged outcome limit
            rw [hmove] at hstep
            apply h.canPause_of_step hstep trivial (by rintro _ _ _ ⟨⟩) rfl
            intro _
            exact (pauses_of_ended hended rfl).canPause

theorem Underway.canPause_resting (h : system.Underway staff url number start code answers)
    (hgiven : start + answers.length ≤ UInt64.size)
    {last : Option (Except SessionError Reply)} (hrests : system.activity = .resting session last) :
    system.CanPause number := by
  obtain ⟨world, activity⟩ := system
  obtain ⟨place, hengages, hseats, hpassage⟩ := h.passage
  obtain rfl : activity = .resting session last := hrests
  cases hpassage with
  | asked hemploys hasked hasks => exact (pauses_of_asked hasked rfl).canPause
  | ended hemploys hended hrecital => exact (pauses_of_ended hended rfl).canPause
  | running hemploys hengaged htells =>
      -- The user waits without a limit.
      have hcall : session.call (.wait none) = .done (.listen (.wait none), session) :=
        hengaged.awaitQuiet hemploys.live none
      have hstep : step ⟨world, .resting session last⟩ (.call (.wait none)) =
          some ⟨world, .listening session (.wait none) .forever⟩ := by
        simp only [step, hcall]
        rfl
      have hlets : System.Lets ⟨world, .resting session last⟩ number (.call (.wait none)) := by
        rintro _ _ ⟨⟩ hawaiting
        rw [Session.isAwaitingInput, hengaged.statements] at hawaiting
        cases hawaiting
      apply h.canPause_of_step hstep hlets (by rintro _ _ _ ⟨⟩) rfl
      intro hunderway
      obtain ⟨world', ahead', outbox', hfollowing, hready, hseats'⟩ := hunderway.goes_on hseats
      exact ((hunderway.silent hfollowing).canPause_hearing hgiven rfl hseats' hready).of_following
        hfollowing

theorem Underway.canPause_waiting (h : system.Underway staff url number start code answers)
    (hgiven : start + answers.length ≤ UInt64.size) {stop : Until}
    (hlistens : system.activity = .listening session (.wait limit) stop) :
    system.CanPause number := by
  obtain ⟨world, activity⟩ := system
  obtain ⟨place, hengages, hseats, hpassage⟩ := id h.passage
  obtain rfl : activity = .listening session (.wait limit) stop := hlistens
  have hlive : session.live = some number ∧ stop ≠ .drained := by
    cases hpassage with
    | listening hemploys hengaged htells hstop => exact ⟨hemploys.live, hstop⟩
    | idling hemploys hasked hasks => exact ⟨hemploys.live, by rintro ⟨⟩⟩
  cases stop with
  | drained => exact absurd rfl hlive.2
  | forever =>
      cases hpassage with
      | listening hemploys hengaged htells hstop =>
          obtain ⟨world', ahead', outbox', hfollowing, hready, hseats'⟩ := h.goes_on hseats
          exact ((h.silent hfollowing).canPause_hearing hgiven rfl hseats' hready).of_following
            hfollowing
  | instant deadline =>
      -- The user waits until the time is over and then without a limit.
      have hpass : step ⟨world, .listening session (.wait limit) (.instant deadline)⟩
          (.pass (deadline - world.clock)) = some ⟨world.pass (deadline - world.clock),
            .listening session (.wait limit) (.instant deadline)⟩ := rfl
      have hmay : mayStop ⟨world.pass (deadline - world.clock),
          .listening session (.wait limit) (.instant deadline)⟩ number (.instant deadline) =
            true := by
        have hover : deadline ≤ world.clock + (deadline - world.clock) := by omega
        exact decide_eq_true hover
      have hquiet : step ⟨world.pass (deadline - world.clock),
          .listening session (.wait limit) (.instant deadline)⟩ .quiet =
            some ⟨world.pass (deadline - world.clock),
              .resting session (some (.ok (.waited .timedOut)))⟩ := by
        simp only [step, hlive.1, Option.bind_eq_bind, Option.bind_some, hmay, if_true,
          Option.pure_def]
        rfl
      apply h.canPause_of_step hpass trivial (by rintro _ _ _ ⟨⟩) rfl
      intro hunderway
      apply hunderway.canPause_of_step hquiet trivial (by rintro _ _ _ ⟨⟩) rfl
      intro hunderway
      exact hunderway.canPause_resting hgiven rfl

theorem Underway.exists_booted (h : system.Underway staff url number start code answers)
    {after : AfterBoot} {stop : Until}
    (hlistens : system.activity = .listening session (.boot after) stop) :
    ∃ system', system.Following number [] system' ∧
      system'.activity.remaining < system.activity.remaining := by
  obtain ⟨world, activity⟩ := system
  obtain ⟨place, hengages, hseats, hpassage⟩ := id h.passage
  obtain rfl : activity = .listening session (.boot after) stop := hlistens
  cases hpassage with
  | booting hawaits hboots hstop =>
      obtain ⟨world', ahead', outbox', hfollowing, hready, hseats⟩ := h.goes_on hseats
      have hunderway := h.silent hfollowing
      obtain ⟨place, -, hseats', hpassage⟩ := hunderway.passage
      cases hseats.unique hseats'
      cases hpassage with
      | booting hawaits hboots hstop =>
          cases hboots with
          | opening => exact absurd trivial hready
          | opened => exact absurd trivial hready
          | booted =>
              have hmay : mayHear ⟨world', .listening session (.boot (.run code .done)) stop⟩ stop =
                  true := by
                cases stop with
                | drained => rfl
                | forever => rfl
                | instant deadline =>
                    exact decide_eq_true (Nat.le_of_lt (hunderway.intime _ _ _ rfl))
              obtain ⟨lanes, hstep, -⟩ := exists_hear hawaits.live hseats hmay
              obtain ⟨next, session', hmove, -⟩ := hawaits.hear code
              rw [hmove] at hstep
              exact ⟨_, hfollowing.trans
                (Following.begin.step hstep trivial (by rintro _ _ _ ⟨⟩)),
                (by decide : 2 < 4)⟩

theorem Underway.exists_quiet (h : system.Underway staff url number start code answers)
    {after : AfterPoll} {stop : Until}
    (hlistens : system.activity = .listening session (.poll after) stop) :
    ∃ system', system.Following number [] system' ∧
      system'.activity.remaining < system.activity.remaining := by
  obtain ⟨world, activity⟩ := system
  obtain ⟨place, hengages, hseats, hpassage⟩ := h.passage
  obtain rfl : activity = .listening session (.poll after) stop := hlistens
  cases hpassage with
  | polling hlive hquiet hnext hgiven hemploys hengaged hawaits =>
      have hstep : step ⟨world, .listening session (.poll after) .drained⟩ .quiet =
          some (tell ⟨world, .listening session (.poll after) .drained⟩ session (.poll after)
            .drained .quiet) := by
        simp only [step, hlive, Option.bind_eq_bind, Option.bind_some, mayStop,
          hseats.isQuiet_eq hawaits.ne_none, if_true, Option.pure_def]
      rw [tell, hquiet] at hstep
      exact ⟨_, Following.begin.step hstep trivial (by rintro _ _ _ ⟨⟩), (by decide : 2 < 3)⟩

/-- Whatever the session is at, the user can get to where nothing goes on but what waits for
them. -/
theorem Underway.canPause (h : system.Underway staff url number start code answers)
    (hpatient : ∀ limit, staff.config.initTimeout = some limit → 0 < limit.milliseconds)
    (hgiven : start + answers.length ≤ UInt64.size) : system.CanPause number := by
  -- The induction is on how far the session is from where its program runs or rests.
  induction hremaining : system.activity.remaining using Nat.strongRecOn generalizing system with
  | ind n ih =>
      have hgo (hnearer : ∃ system', system.Following number [] system' ∧
          system'.activity.remaining < system.activity.remaining) : system.CanPause number := by
        obtain ⟨system', hfollowing, hless⟩ := hnearer
        exact (ih _ (hremaining ▸ hless) (h.silent hfollowing) rfl).of_following hfollowing
      cases hactivity : system.activity with
      | resting session last => exact h.canPause_resting hgiven hactivity
      | acting move kept =>
          obtain ⟨system', hstep, -, hless, hintime⟩ := h.passage.exists_deed hactivity
          exact hgo ⟨system', Following.begin.step hstep trivial (hintime hpatient), hless⟩
      | listening session goal stop =>
          cases goal with
          | wait limit => exact h.canPause_waiting hgiven hactivity
          | boot after => exact hgo (h.exists_booted hactivity)
          | poll after => exact hgo (h.exists_quiet hactivity)

end System
end ScriptConsole
