import ScriptConsole.Proofs.System.Passage

/-!
The steps of a session that runs a whole program. Whatever step comes next, of the session, of its
worker or of one of former times, the session gets on or stays where it is.
-/

namespace ScriptConsole

variable {σ : Type}

namespace Work

variable {begun : Execution σ} {answers : List String} {given : Nat} {content : Content}
  {shown : List Entry} {ahead : Work (Option (Worker σ))} {outbox : List Event}
  {request : UInt64} {prompt : Option String} {answer : String}

theorem Boots.ne_none {booted : Worker σ} (h : Boots booted ahead outbox) : ahead ≠ .done none := by
  cases h <;> rintro ⟨⟩

theorem Tells.ne_none (h : Tells begun answers given content shown ahead outbox) :
    ahead ≠ .done none := by
  cases h with
  | @running worker bridge execution hcalm huntimed hwrites hleads =>
      obtain ⟨event, next, hpost⟩ := exists_script worker bridge execution
      rw [hpost]
      rintro ⟨⟩
  | answered => rintro ⟨⟩
  | asked => rintro ⟨⟩
  | ended => rintro ⟨⟩

theorem Asks.ne_none (h : Asks begun answers given content shown request prompt ahead) :
    ahead ≠ .done none := by
  cases h
  rintro ⟨⟩

theorem Awaits.ne_none (h : Awaits begun answers given content shown request answer ahead) :
    ahead ≠ .done none := by
  cases h
  rintro ⟨⟩

end Work

/-- How far a session still is from where its program runs or rests. -/
def Activity.remaining : Activity → Nat
  | .acting (.terminate _ _) _ => 8
  | .acting (.write .empty _) none => 7
  | .acting (.spawn _) _ => 6
  | .acting (.post _ (.init _) _) _ => 5
  | .listening _ (.boot _) _ => 4
  | .listening _ (.poll _) _ => 3
  | .acting (.write (.line _ _ _) _) _ | .acting (.post _ (.run _) _) _ => 2
  | .acting (.write .empty _) (some _) => 1
  | _ => 0

namespace System

variable {staff : Staff σ} {url code : String} {number start : Nat} {answers : List String}
  {system system' : System σ} {a : Account}

/-- The session is somewhere on its way through the program. -/
def InPassage (staff : Staff σ) (url : String) (number start : Nat) (code : String)
    (answers : List String) (system : System σ) : Prop :=
  ∃ place, system.world.Engages staff ∧ system.world.Seats number place ∧
    Passage staff url number start code answers place system.activity

/-! ### Steps of the surroundings -/

theorem InPassage.work (h : system.InPassage staff url number start code answers)
    (hhouses : system.world.Houses a) {worker : Nat}
    (hstep : system.step (.work worker) = some system') :
    system'.InPassage staff url number start code answers := by
  simp only [step, Option.bind_eq_bind, Option.bind_eq_some_iff, Option.pure_def,
    Option.some.injEq] at hstep
  obtain ⟨world', hwork, rfl⟩ := hstep
  obtain ⟨place, hengages, hseats, hpassage⟩ := h
  obtain ⟨lanes, place', rfl, hgoes, hseats'⟩ := hseats.work hhouses hpassage.heeds hwork
  exact ⟨place', hengages.goes_on _ _, hseats', hpassage.goes hgoes⟩

theorem InPassage.crash (h : system.InPassage staff url number start code answers)
    {worker : Nat} (hother : worker ≠ number)
    (hstep : system.step (.crash worker) = some system') :
    system'.InPassage staff url number start code answers := by
  cases hstep
  obtain ⟨place, hengages, hseats, hpassage⟩ := h
  exact ⟨place, hengages.goes_on _ _, hseats.crash hother, hpassage⟩

theorem InPassage.pass (h : system.InPassage staff url number start code answers)
    {milliseconds : Nat} (hstep : system.step (.pass milliseconds) = some system') :
    system'.InPassage staff url number start code answers := by
  cases hstep
  obtain ⟨place, hengages, hseats, hpassage⟩ := h
  refine ⟨place, hengages.goes_on _ _, ?_, hpassage⟩
  cases place with
  | vacant => exact hseats
  | cleared => exact hseats
  | taken ahead outbox content => exact hseats

/-! ### Deeds of the session -/

theorem step_deed {world world' : World σ} {move next : Move} (kept : Option Until)
    (hmove : move.step? World.host world = some (next, world')) :
    step ⟨world, .acting move kept⟩ .deed = some ⟨world', .ofMove world'.clock kept next⟩ := by
  simp only [step, hmove, Option.bind_eq_bind, Option.bind_some, Option.pure_def]
  rfl

theorem step_write_of_engages {world : World σ} (hengages : world.Engages staff)
    (content : Content) (next : Except BufferError Unit → Move) (kept : Option Until) :
    ∃ storage, step ⟨world, .acting (.write content next) kept⟩ .deed =
        some ⟨{ world with storage }, .ofMove world.clock kept (next (.ok ()))⟩ ∧
      world.buffer.Holds content storage ∧ ({ world with storage } : World σ).Engages staff := by
  obtain ⟨storage, hwrite, hholds, hengages'⟩ := hengages.write content
  refine ⟨storage, step_deed kept ?_, hholds, hengages'⟩
  simp only [Deed.step?, World.host, hwrite]

theorem step_post_of_seats {world : World σ} {recruit : Worker σ} {outbox : List Event}
    {content : Content} (hseats : world.Seats number (.taken (.done (some recruit)) outbox content))
    (command : Command) (next : Except TransportError Unit → Move) (kept : Option Until) :
    ∃ lanes, step ⟨world, .acting (.post number command next) kept⟩ .deed =
        some ⟨{ world with lanes }, .ofMove world.clock kept (next (.ok ()))⟩ ∧
      ({ world with lanes } : World σ).Seats number
        (.taken (recruit.attend [command]) outbox content) := by
  obtain ⟨lanes, hpost, hseats'⟩ := hseats.post command
  refine ⟨lanes, step_deed kept ?_, hseats'⟩
  simp only [Deed.step?, World.host, hpost]

theorem step_opening {world : World σ} {session : Session} {limit : Option Duration}
    {kept : Option Until} {next : Except BufferError Unit → Move} {request : UInt64}
    {prompt : Option String} {given : Nat} {shown : List Entry}
    {ahead : Work (Option (Worker σ))} {content : Content} (hengages : world.Engages staff)
    (hseats : world.Seats number (.taken ahead [] content))
    (hnext : next (.ok ()) =
      (session.openRequest request (Bridge.prompt prompt)).awaitQuiet limit)
    (hemploys : session.Employs number given shown) (hengaged : session.IsEngaged) :
    ∃ storage session' last, step ⟨world, .acting (.write .empty next) kept⟩ .deed =
        some ⟨{ world with storage }, .resting session' last⟩ ∧
      ({ world with storage } : World σ).Engages staff ∧
      ({ world with storage } : World σ).Seats number (.taken ahead [] .empty) ∧
      session'.Employs number given (shown ++ Entry.ofText? .output prompt) ∧
      session'.HasAskedFor request (Bridge.prompt prompt) := by
  obtain ⟨storage, hstep, hholds, hengages'⟩ := step_write_of_engages hengages .empty next kept
  obtain ⟨session', hmove, hemploys', hasked⟩ :=
    hemploys.openRequest hengaged request (Bridge.prompt prompt) limit
  rw [Entry.ofText?_prompt] at hemploys'
  rw [hnext, hmove] at hstep
  exact ⟨storage, session', _, hstep, hengages', ⟨hholds, hseats.2⟩, hemploys', hasked⟩

/-- A session that has deeds to do can do the next one, and gets nearer to where the program
runs. -/
theorem InPassage.exists_deed (h : system.InPassage staff url number start code answers)
    {move : Move} {kept : Option Until} (hactivity : system.activity = .acting move kept) :
    ∃ system', system.step .deed = some system' ∧
      system'.InPassage staff url number start code answers ∧
      system'.activity.remaining < system.activity.remaining ∧
      ((∀ limit, staff.config.initTimeout = some limit → 0 < limit.milliseconds) →
        system'.InTime) := by
  obtain ⟨world, activity⟩ := system
  obtain ⟨place, hengages, hseats, hpassage⟩ := h
  obtain rfl : activity = .acting move kept := hactivity
  cases hpassage with
  | @leaving session old next more hnext hmore hstarts =>
      have hstep : step ⟨world, .acting (.terminate old next) none⟩ .deed =
          some ⟨world.terminate old, .ofMove world.clock none (next ())⟩ := step_deed none rfl
      rw [hnext] at hstep
      exact ⟨_, hstep, ⟨.vacant, hengages.goes_on _ _, (List.length_modify ..).trans hseats,
        .clearing hmore hstarts⟩, Nat.lt_succ_self 7, fun _ => by rintro _ _ _ ⟨⟩⟩
  | @clearing session next hnext hstarts =>
      obtain ⟨storage, hstep, hholds, hengages'⟩ := step_write_of_engages hengages .empty next none
      obtain ⟨spawned, more, session', hspawn, hspawned, hmore, hawaits⟩ :=
        hstarts.spawn (.run code .done)
      rw [hnext, hspawn] at hstep
      exact ⟨_, hstep, ⟨.cleared, hengages', ⟨hseats, hholds⟩, .spawning hspawned hmore hawaits⟩,
        Nat.lt_succ_self 6, fun _ => by rintro _ _ _ ⟨⟩⟩
  | @spawning session next more hnext hmore hawaits =>
      have hstep : step ⟨world, .acting (.spawn next) none⟩ .deed =
          some ⟨{ world with lanes := world.lanes ++ [.new staff.recruit] },
            .ofMove world.clock none (next (.ok ()))⟩ := by
        refine step_deed none ?_
        simp only [Deed.step?, World.host, hengages.spawn]
      rw [hnext] at hstep
      refine ⟨_, hstep, ⟨.taken _ _ _, hengages.goes_on _ _,
        ⟨hseats.2, .new staff.recruit, ?_, rfl, rfl, rfl⟩, .calling hmore hawaits⟩,
        Nat.lt_succ_self 5, fun _ => by rintro _ _ _ ⟨⟩⟩
      rw [← hseats.1]
      exact List.getElem?_concat_length
  | @calling session next hnext hawaits =>
      obtain ⟨lanes, hstep, hseats'⟩ :=
        step_post_of_seats hseats (.boot staff.config url) next none
      rw [hnext, hawaits.awaitBoot] at hstep
      -- This is the one deed behind which the session listens with a limit.
      refine ⟨_, hstep, ⟨.taken _ _ _, hengages.goes_on _ _, hseats',
        .booting hawaits (Work.boots_init staff.boots _) (from_ofLimit_ne_drained _ _)⟩,
        Nat.lt_succ_self 4, fun hpatient => ?_⟩
      rintro _ _ deadline hlistening
      have hfrom := (Activity.listening.inj hlistening).2.2
      rw [Session.patience, hawaits.config] at hfrom
      exact lt_of_from_ofLimit hpatient hfrom
  | @posting session next kept hnext hemploys hengaged =>
      obtain ⟨lanes, hstep, hseats'⟩ := step_post_of_seats hseats (.run code) next kept
      rw [hnext] at hstep
      exact ⟨_, hstep, ⟨.taken _ _ _, hengages.goes_on _ _, hseats',
        .running hemploys hengaged (staff.tells_run url code start)⟩,
        Nat.zero_lt_two, fun _ => by rintro _ _ _ ⟨⟩⟩
  | @opening session limit kept next request prompt _ shown ahead content hnext hemploys hengaged
      hasks =>
      obtain ⟨storage, session', last, hstep, hengages', hseats', hemploys', hasked⟩ :=
        step_opening hengages hseats hnext hemploys hengaged
      refine ⟨_, hstep, ⟨_, hengages', hseats', .asked hemploys' hasked hasks.cleared⟩, ?_,
        fun _ => by rintro _ _ _ ⟨⟩⟩
      cases kept with
      | none => exact Nat.succ_pos 6
      | some stop => exact Nat.one_pos
  | @answering session' kept reply next request answer _ given shown ahead content hnext hgiven
      hemploys hengaged hawaits =>
      obtain ⟨storage, hstep, hholds, hengages'⟩ :=
        step_write_of_engages hengages (.line request (UInt64.ofNat given) answer) next kept
      have htells := hawaits.tells
      rw [← hgiven] at hemploys htells
      rw [hnext] at hstep
      exact ⟨_, hstep, ⟨.taken _ _ _, hengages', ⟨hholds, hseats.2⟩,
        .running hemploys hengaged htells⟩, Nat.zero_lt_two, fun _ => by rintro _ _ _ ⟨⟩⟩

theorem InPassage.deed (h : system.InPassage staff url number start code answers)
    (hstep : system.step .deed = some system') :
    system'.InPassage staff url number start code answers := by
  cases hactivity : system.activity with
  | acting move kept =>
      obtain ⟨next, hnext, hpassage, -⟩ := h.exists_deed hactivity
      cases hstep.symm.trans hnext
      exact hpassage
  | _ => simp [step, hactivity] at hstep

/-! ### What the session hears -/

theorem step_hear_of_seats {world : World σ} {session : Session} {goal : Listening} {stop : Until}
    {ahead : Work (Option (Worker σ))} {outbox : List Event} {content : Content}
    (hlive : session.live = some number)
    (hseats : world.Seats number (.taken ahead outbox content))
    (hstep : step ⟨world, .listening session goal stop⟩ .hear = some system') :
    ∃ event events lanes, outbox = event :: events ∧
      ({ world with lanes } : World σ).Seats number (.taken ahead events content) ∧
      system' = ⟨{ world with lanes },
        .ofMove world.clock (some stop) (session.hear goal (.event event))⟩ := by
  simp only [step, hlive, Option.bind_eq_bind, Option.bind_some, Option.bind_eq_some_iff,
    Prod.exists] at hstep
  obtain ⟨event, world', hevent, hmay⟩ := hstep
  obtain ⟨lanes, events, houtbox, rfl, hseats'⟩ := hseats.event hevent
  split at hmay
  · cases hmay
    exact ⟨event, events, lanes, houtbox, hseats', rfl⟩
  · cases hmay

theorem exists_hear {world : World σ} {session : Session} {goal : Listening} {stop : Until}
    {ahead : Work (Option (Worker σ))} {event : Event} {events : List Event} {content : Content}
    (hlive : session.live = some number)
    (hseats : world.Seats number (.taken ahead (event :: events) content))
    (hmay : mayHear ⟨world, .listening session goal stop⟩ stop = true) :
    ∃ lanes, step ⟨world, .listening session goal stop⟩ .hear = some ⟨{ world with lanes },
        .ofMove world.clock (some stop) (session.hear goal (.event event))⟩ ∧
      ({ world with lanes } : World σ).Seats number (.taken ahead events content) := by
  obtain ⟨lanes, hevent, hseats'⟩ := hseats.exists_event
  refine ⟨lanes, ?_, hseats'⟩
  simp only [step, hlive, hevent, Option.bind_eq_bind, Option.bind_some, hmay, if_true,
    Option.pure_def]
  rfl

theorem InPassage.hear (h : system.InPassage staff url number start code answers)
    (hstep : system.step .hear = some system') :
    system'.InPassage staff url number start code answers := by
  obtain ⟨world, activity⟩ := system
  obtain ⟨place, hengages, hseats, hpassage⟩ := h
  cases hpassage with
  | booting hawaits hboots hstop =>
      obtain ⟨event, events, lanes, rfl, hseats', rfl⟩ :=
        step_hear_of_seats hawaits.live hseats hstep
      cases hboots with
      | booted =>
          obtain ⟨next, session', hmove, hnext, hemploys, hengaged⟩ := hawaits.hear code
          rw [hmove]
          exact ⟨_, hengages.goes_on _ _, hseats', .posting hnext hemploys hengaged⟩
  | @listening session limit stop _ shown ahead outbox content hemploys hengaged htells hstop =>
      obtain ⟨event, events, lanes, rfl, hseats', rfl⟩ :=
        step_hear_of_seats hemploys.live hseats hstep
      rcases htells.hear with ⟨hwrite, htells'⟩ | ⟨rfl, request, prompt, rfl, hasks⟩ |
        ⟨rfl, left, outcome, rfl, rfl, hrecital⟩
      · obtain ⟨session', hmove, hemploys', hengaged'⟩ :=
          hemploys.hear_write hengaged hwrite limit
        rw [hmove]
        exact ⟨_, hengages.goes_on _ _, hseats', .listening hemploys' hengaged' htells' hstop⟩
      · rw [Session.hear_input]
        exact ⟨_, hengages.goes_on _ _, hseats', .opening rfl hemploys hengaged hasks⟩
      · obtain ⟨session', hmove, hemploys', hended⟩ := hemploys.hear_run hengaged outcome limit
        rw [hmove]
        exact ⟨_, hengages.goes_on _ _, hseats', .ended hemploys' hended hrecital⟩
  | idling hemploys =>
      -- The worker has asked for the line and says nothing until it has it.
      obtain ⟨event, events, lanes, hnil, -⟩ := step_hear_of_seats hemploys.live hseats hstep
      cases hnil
  | polling hlive =>
      obtain ⟨event, events, lanes, hnil, -⟩ := step_hear_of_seats hlive hseats hstep
      cases hnil
  | _ => cases hstep

theorem InPassage.quiet (h : system.InPassage staff url number start code answers)
    (hintime : system.InTime) (hstep : system.step .quiet = some system') :
    system'.InPassage staff url number start code answers := by
  obtain ⟨world, activity⟩ := system
  obtain ⟨place, hengages, hseats, hpassage⟩ := h
  have htell {session : Session} {goal : Listening} {stop : Until}
      (hactivity : activity = .listening session goal stop) (hlive : session.live = some number) :
      mayStop ⟨world, activity⟩ number stop = true ∧
        system' = tell ⟨world, activity⟩ session goal stop .quiet := by
    subst hactivity
    simp only [step, hlive, Option.bind_eq_bind, Option.bind_some] at hstep
    split at hstep
    · rename_i hmay
      cases hstep
      exact ⟨hmay, rfl⟩
    · cases hstep
  cases hpassage with
  | @booting session ahead outbox stop hawaits hboots hstop =>
      obtain ⟨hmay, -⟩ := htell rfl hawaits.live
      cases stop with
      | drained => exact absurd rfl hstop
      | forever => cases hmay
      | instant deadline =>
          have hdeadline := hintime _ _ _ rfl
          simp only [mayStop, decide_eq_true_eq] at hmay
          exact absurd hmay (Nat.not_le_of_lt hdeadline)
  | listening hemploys hengaged htells hstop =>
      obtain ⟨-, rfl⟩ := htell rfl hemploys.live
      exact ⟨_, hengages, hseats, .running hemploys hengaged htells⟩
  | idling hemploys hasked hasks =>
      obtain ⟨-, rfl⟩ := htell rfl hemploys.live
      exact ⟨_, hengages, hseats, .asked hemploys hasked hasks⟩
  | polling hlive hquiet hnext hgiven hemploys hengaged hawaits =>
      obtain ⟨-, rfl⟩ := htell rfl hlive
      rw [tell, hquiet]
      exact ⟨_, hengages, hseats, .answering hnext hgiven hemploys hengaged hawaits⟩
  | _ => cases hstep

theorem InPassage.not_gone (h : system.InPassage staff url number start code answers) :
    system.step .gone ≠ some system' := by
  intro hstep
  obtain ⟨world, activity⟩ := system
  obtain ⟨place, hengages, hseats, hpassage⟩ := h
  have hthere {session : Session} {goal : Listening} {stop : Until}
      (hactivity : activity = .listening session goal stop) (hlive : session.live = some number)
      (hgoes : world.isGone number = false) : False := by
    subst hactivity
    simp only [step, hlive, Option.bind_eq_bind, Option.bind_some, hgoes, Bool.false_and,
      Bool.false_eq_true, if_false] at hstep
    cases hstep
  cases hpassage with
  | booting hawaits hboots hstop =>
      exact hthere rfl hawaits.live (hseats.isGone_eq hboots.ne_none)
  | listening hemploys hengaged htells hstop =>
      exact hthere rfl hemploys.live (hseats.isGone_eq htells.ne_none)
  | idling hemploys hasked hasks =>
      exact hthere rfl hemploys.live (hseats.isGone_eq hasks.ne_none)
  | polling hlive hquiet hnext hgiven hemploys hengaged hawaits =>
      exact hthere rfl hlive (hseats.isGone_eq hawaits.ne_none)
  | _ => cases hstep

/-! ### What the user does -/

theorem InPassage.wait (h : system.InPassage staff url number start code answers)
    {limit : Option Duration}
    (hlimit : ∀ session last, system.activity = .resting session last →
      session.isAwaitingInput = true → limit ≠ none)
    (hstep : system.step (.call (.wait limit)) = some system') :
    system'.InPassage staff url number start code answers := by
  obtain ⟨world, activity⟩ := system
  obtain ⟨place, hengages, hseats, hpassage⟩ := h
  cases hpassage with
  | running hemploys hengaged htells =>
      cases hstep
      rw [act, show Session.call _ (.wait limit) = _ from hengaged.awaitQuiet hemploys.live limit]
      exact ⟨_, hengages, hseats,
        .listening hemploys hengaged htells (from_ofLimit_ne_drained _ _)⟩
  | asked hemploys hasked hasks =>
      cases hstep
      rw [act, show Session.call _ (.wait limit) = _ from hasked.awaitQuiet hemploys.live limit]
      cases limit with
      | some limit => exact ⟨_, hengages, hseats, .idling hemploys hasked hasks⟩
      | none =>
          exact absurd rfl (hlimit _ _ rfl hasked.isAwaitingInput)
  | ended hemploys hended hrecital =>
      cases hstep
      rw [act, show Session.call _ (.wait limit) = _ from
        Session.awaitQuiet_of_done hended.pending hended.statements limit]
      exact ⟨_, hengages, hseats, .ended hemploys hended hrecital⟩
  | _ => cases hstep

theorem InPassage.answer (h : system.InPassage staff url number start code answers)
    {session : Session} {last : Option (Except SessionError Reply)}
    (hrests : system.activity = .resting session last)
    (hawaiting : session.isAwaitingInput = true) {call : Session.Call} {answer : String}
    (hanswer : call.answer? = some answer) (hstep : system.step (.call call) = some system') :
    system'.InPassage staff url number start code (answers ++ [answer]) := by
  obtain ⟨world, activity⟩ := system
  obtain ⟨place, hengages, hseats, hpassage⟩ := h
  obtain rfl : activity = .resting session last := hrests
  have hidle (hstatements : session.statements = .empty) : False := by
    rw [Session.isAwaitingInput, hstatements] at hawaiting
    cases hawaiting
  cases hstep
  cases hpassage with
  | running hemploys hengaged htells => exact (hidle hengaged.statements).elim
  | ended hemploys hended hrecital => exact (hidle hended.statements).elim
  | asked hemploys hasked hasks =>
      obtain ⟨after, hcall, next, session', reply, hquiet, hnext, hemploys', hengaged⟩ :=
        hasked.call hemploys hanswer
      rw [act, hcall]
      refine ⟨_, hengages, hseats,
        .polling hemploys.live hquiet hnext ?_ hemploys' hengaged (hasks.answered answer)⟩
      rw [List.length_append, List.length_singleton, Nat.add_assoc]

end System
end ScriptConsole
