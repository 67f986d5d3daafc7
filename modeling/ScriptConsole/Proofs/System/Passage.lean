import ScriptConsole.Proofs.Session.Afresh
import ScriptConsole.Proofs.System.Script
import ScriptConsole.Proofs.System.Sitting

/-!
The way of a session that runs a whole program, from where it lets go of its worker to where the
program has ended, and where its new worker is meanwhile. Workers of former times are still there
and may be at work; the session has nothing to do with them.
-/

namespace ScriptConsole

variable {σ : Type}

/-- Workers of one kind, whose interpreter boots and whose requests for input are not timed. -/
structure Staff (σ : Type) where
  interpreter : Interpreter σ
  channel : Channel
  config : Config
  /-- The interpreter when it has booted. -/
  state : σ
  boots : interpreter.boot ⟨config.baseUrl, config.packages⟩ = .ready state
  untimed : config.inputTimeoutMs = none

namespace Staff

/-- What a worker is told that is to boot. -/
def setup (staff : Staff σ) (url : String) : Setup where
  baseUrl := staff.config.baseUrl
  bufferUrl := url
  packages := staff.config.packages
  inputTimeout := staff.config.inputTimeoutMs
  pollInterval := some staff.config.pollIntervalMs

/-- A worker that was told nothing. -/
def recruit (staff : Staff σ) : Worker σ :=
  .new staff.interpreter staff.channel.source

/-- A worker that has booted. -/
def booted (staff : Staff σ) (url : String) : Worker σ :=
  .booted staff.interpreter staff.channel.source (staff.setup url) staff.state

/-- The program as it runs on an interpreter that has just booted. -/
def begun (staff : Staff σ) (code : String) : Execution σ :=
  Reference.execute staff.interpreter code staff.state

theorem untimed_newBridge (staff : Staff σ) (url : String) :
    (Worker.newBridge (staff.setup url)).timeout = none := by
  rw [Worker.newBridge, setup, staff.untimed]
  rfl

theorem tells_run (staff : Staff σ) (url code : String) (given : Nat) :
    Work.Tells (staff.begun code) [] given .empty [] ((staff.booted url).attend [.run code])
      [] := by
  rw [Worker.attend_run _ rfl]
  exact .running ⟨rfl, by rintro _ ⟨⟩⟩ (staff.untimed_newBridge url) (by rintro _ ⟨⟩)
    (Execution.leads_self _)

end Staff

/-- What there is of the new worker and of the buffer. -/
inductive Workplace (σ : Type) where
  | vacant
  /-- There is no worker yet, and the buffer holds nothing. -/
  | cleared
  | taken (ahead : Work (Option (Worker σ))) (outbox : List Event) (content : Content)

namespace Workplace

def Heeds : Workplace σ → Prop
  | taken ahead _ content => ahead.Heeds content
  | _ => True

/-- The worker goes on. -/
inductive Goes : Workplace σ → Workplace σ → Prop where
  | stay {place : Workplace σ} : Goes place place
  | advance {ahead ahead' : Work (Option (Worker σ))} {outbox events : List Event}
      {content : Content} (hadvances : ahead.Advances content events ahead') :
      Goes (.taken ahead outbox content) (.taken ahead' (outbox ++ events) content)

end Workplace

/-- Where a session is that runs a whole program, and where its worker is meanwhile, which has
this number. The session had written `start` lines before. -/
inductive Passage (staff : Staff σ) (url : String) (number start : Nat) (code : String) :
    List String → Workplace σ → Activity → Prop where
  | leaving {session : Session} {old : Nat} {next : Unit → Move}
      {more : Except BufferError Unit → Move} (hnext : next () = .write .empty more)
      (hmore : more (.ok ()) = session.spawn (.run code .done))
      (hstarts : session.Starts staff.config url number start) :
      Passage staff url number start code [] .vacant (.acting (.terminate old next) none)
  | clearing {session : Session} {next : Except BufferError Unit → Move}
      (hnext : next (.ok ()) = session.spawn (.run code .done))
      (hstarts : session.Starts staff.config url number start) :
      Passage staff url number start code [] .vacant (.acting (.write .empty next) none)
  | spawning {session : Session} {next more : Except TransportError Unit → Move}
      (hnext : next (.ok ()) = .post number (.boot staff.config url) more)
      (hmore : more (.ok ()) = session.awaitBoot (.run code .done))
      (hawaits : session.AwaitsBoot staff.config number start) :
      Passage staff url number start code [] .cleared (.acting (.spawn next) none)
  | calling {session : Session} {next : Except TransportError Unit → Move}
      (hnext : next (.ok ()) = session.awaitBoot (.run code .done))
      (hawaits : session.AwaitsBoot staff.config number start) :
      Passage staff url number start code [] (.taken (.done (some staff.recruit)) [] .empty)
        (.acting (.post number (.boot staff.config url) next) none)
  | booting {session : Session} {ahead : Work (Option (Worker σ))} {outbox : List Event}
      {stop : Until} (hawaits : session.AwaitsBoot staff.config number start)
      (hboots : Work.Boots (staff.booted url) ahead outbox) (hstop : stop ≠ .drained) :
      Passage staff url number start code [] (.taken ahead outbox .empty)
        (.listening session (.boot (.run code .done)) stop)
  | posting {session : Session} {next : Except TransportError Unit → Move} {kept : Option Until}
      (hnext : next (.ok ()) = session.reply .done)
      (hemploys : session.Employs number start []) (hengaged : session.IsEngaged) :
      Passage staff url number start code [] (.taken (.done (some (staff.booted url))) [] .empty)
        (.acting (.post number (.run code) next) kept)
  | running {session : Session} {last : Option (Except SessionError Reply)}
      {answers : List String} {shown : List Entry} {ahead : Work (Option (Worker σ))}
      {outbox : List Event} {content : Content}
      (hemploys : session.Employs number (start + answers.length) shown)
      (hengaged : session.IsEngaged)
      (htells : Work.Tells (staff.begun code) answers (start + answers.length) content shown ahead
        outbox) :
      Passage staff url number start code answers (.taken ahead outbox content)
        (.resting session last)
  | listening {session : Session} {limit : Option Duration} {stop : Until}
      {answers : List String} {shown : List Entry} {ahead : Work (Option (Worker σ))}
      {outbox : List Event} {content : Content}
      (hemploys : session.Employs number (start + answers.length) shown)
      (hengaged : session.IsEngaged)
      (htells : Work.Tells (staff.begun code) answers (start + answers.length) content shown ahead
        outbox) (hstop : stop ≠ .drained) :
      Passage staff url number start code answers (.taken ahead outbox content)
        (.listening session (.wait limit) stop)
  | opening {session : Session} {limit : Option Duration} {kept : Option Until}
      {next : Except BufferError Unit → Move} {request : UInt64} {prompt : Option String}
      {answers : List String} {shown : List Entry} {ahead : Work (Option (Worker σ))}
      {content : Content}
      (hnext : next (.ok ()) =
        (session.openRequest request (Bridge.prompt prompt)).awaitQuiet limit)
      (hemploys : session.Employs number (start + answers.length) shown)
      (hengaged : session.IsEngaged)
      (hasks : Work.Asks (staff.begun code) answers (start + answers.length) content shown request
        prompt ahead) :
      Passage staff url number start code answers (.taken ahead [] content)
        (.acting (.write .empty next) kept)
  | asked {session : Session} {last : Option (Except SessionError Reply)} {request : UInt64}
      {prompt : Option String} {answers : List String} {shown : List Entry}
      {ahead : Work (Option (Worker σ))} {content : Content}
      (hemploys : session.Employs number (start + answers.length)
        (shown ++ Entry.ofText? .output prompt))
      (hasked : session.HasAskedFor request (Bridge.prompt prompt))
      (hasks : Work.Asks (staff.begun code) answers (start + answers.length) content shown request
        prompt ahead) :
      Passage staff url number start code answers (.taken ahead [] content)
        (.resting session last)
  /-- The user waits although the program waits for them. -/
  | idling {session : Session} {limit : Option Duration} {deadline : Nat} {request : UInt64}
      {prompt : Option String} {answers : List String} {shown : List Entry}
      {ahead : Work (Option (Worker σ))} {content : Content}
      (hemploys : session.Employs number (start + answers.length)
        (shown ++ Entry.ofText? .output prompt))
      (hasked : session.HasAskedFor request (Bridge.prompt prompt))
      (hasks : Work.Asks (staff.begun code) answers (start + answers.length) content shown request
        prompt ahead) :
      Passage staff url number start code answers (.taken ahead [] content)
        (.listening session (.wait limit) (.instant deadline))
  | polling {session session' : Session} {after : AfterPoll} {reply : Reply}
      {next : Except BufferError Unit → Move} {request : UInt64} {answer : String}
      {answers : List String} {given : Nat} {shown : List Entry}
      {ahead : Work (Option (Worker σ))} {content : Content}
      (hlive : session.live = some number)
      (hquiet : session.hear (.poll after) .quiet =
        .write (.line request (UInt64.ofNat given) answer) next)
      (hnext : next (.ok ()) = session'.reply reply)
      (hgiven : start + answers.length = given + 1)
      (hemploys : session'.Employs number (given + 1) shown) (hengaged : session'.IsEngaged)
      (hawaits : Work.Awaits (staff.begun code) answers given content shown request answer ahead) :
      Passage staff url number start code answers (.taken ahead [] content)
        (.listening session (.poll after) .drained)
  | answering {session' : Session} {kept : Option Until} {reply : Reply}
      {next : Except BufferError Unit → Move} {request : UInt64} {answer : String}
      {answers : List String} {given : Nat} {shown : List Entry}
      {ahead : Work (Option (Worker σ))} {content : Content}
      (hnext : next (.ok ()) = session'.reply reply)
      (hgiven : start + answers.length = given + 1)
      (hemploys : session'.Employs number (given + 1) shown) (hengaged : session'.IsEngaged)
      (hawaits : Work.Awaits (staff.begun code) answers given content shown request answer ahead) :
      Passage staff url number start code answers (.taken ahead [] content)
        (.acting (.write (.line request (UInt64.ofNat given) answer) next) kept)
  | ended {session : Session} {last : Option (Except SessionError Reply)} {answers : List String}
      {given : Nat} {shown : List Entry} {outcome : RunOutcome} {left : Worker σ}
      {content : Content} (hemploys : session.Employs number given shown)
      (hended : session.HasEnded outcome)
      (hrecital : (staff.begun code).recite answers = ⟨shown, .ended outcome⟩) :
      Passage staff url number start code answers (.taken (.done (some left)) [] content)
        (.resting session last)

namespace Passage

variable {staff : Staff σ} {url code : String} {number start : Nat} {answers : List String}
  {place place' : Workplace σ} {activity : Activity}

theorem heeds (h : Passage staff url number start code answers place activity) : place.Heeds := by
  cases h with
  | booting hawaits hboots hstop => exact hboots.heeds
  | running hemploys hengaged htells => exact htells.heeds
  | listening hemploys hengaged htells hstop => exact htells.heeds
  | opening hnext hemploys hengaged hasks => exact hasks.heeds
  | asked hemploys hasked hasks => exact hasks.heeds
  | idling hemploys hasked hasks => exact hasks.heeds
  | polling hlive hquiet hnext hgiven hemploys hengaged hawaits => exact hawaits.heeds
  | answering hnext hgiven hemploys hengaged hawaits => exact hawaits.heeds
  | _ => exact trivial

theorem goes (h : Passage staff url number start code answers place activity)
    (hgoes : place.Goes place') : Passage staff url number start code answers place' activity := by
  cases hgoes with
  | stay => exact h
  | advance hadvances =>
      cases h with
      | booting hawaits hboots hstop => exact .booting hawaits (hboots.advances hadvances) hstop
      | running hemploys hengaged htells =>
          exact .running hemploys hengaged (htells.advances hadvances)
      | listening hemploys hengaged htells hstop =>
          exact .listening hemploys hengaged (htells.advances hadvances) hstop
      | opening hnext hemploys hengaged hasks => exact (hasks.still hadvances).elim
      | asked hemploys hasked hasks => exact (hasks.still hadvances).elim
      | idling hemploys hasked hasks => exact (hasks.still hadvances).elim
      | polling hlive hquiet hnext hgiven hemploys hengaged hawaits =>
          exact (hawaits.still hadvances).elim
      | answering hnext hgiven hemploys hengaged hawaits => exact (hawaits.still hadvances).elim
      | _ => cases hadvances

end Passage

namespace World

/-- The surroundings of a session with workers of this kind, whose buffer can be written. -/
structure Engages (world : World σ) (staff : Staff σ) : Prop where
  interpreter : world.interpreter = staff.interpreter
  channel : world.channel = staff.channel
  clear : world.jam = none
  writable : world.buffer.IsWritable world.storage
  reachable : world.channel = .piped → world.buffer.isReachable = true

/-- The worker with this number is at this place. -/
def Seats (world : World σ) (number : Nat) : Workplace σ → Prop
  | .vacant => world.lanes.length = number
  | .cleared => world.lanes.length = number ∧ world.buffer.Holds .empty world.storage
  | .taken ahead outbox content => world.buffer.Holds content world.storage ∧
      ∃ lane, world.lanes[number]? = some lane ∧ lane.stopped = false ∧ lane.ahead = ahead ∧
        lane.outbox = outbox

variable {world world' : World σ} {staff : Staff σ} {number worker : Nat} {place : Workplace σ}
  {a : Account} {content : Content} {outbox : List Event}

theorem Engages.goes_on (h : world.Engages staff) (lanes : List (Lane σ)) (clock : Nat) :
    ({ world with lanes, clock } : World σ).Engages staff :=
  { h with }

theorem Engages.write (h : world.Engages staff) (content : Content) :
    ∃ storage, world.write content = (.ok (), { world with storage }) ∧
      world.buffer.Holds content storage ∧ ({ world with storage } : World σ).Engages staff := by
  obtain ⟨storage, hwrite, hholds, hwritable⟩ := h.writable.write content
  refine ⟨storage, ?_, hholds, h.interpreter, h.channel, h.clear, hwritable, h.reachable⟩
  rw [World.write, h.clear, hwrite]

theorem Engages.spawn (h : world.Engages staff) : world.spawn =
    (.ok (), { world with lanes := world.lanes ++ [.new staff.recruit] }) := by
  have hreachable : ¬ (world.channel = .piped ∧ ¬ world.buffer.isReachable) :=
    fun hunreachable => hunreachable.2 (h.reachable hunreachable.1)
  rw [World.spawn, if_neg hreachable, h.interpreter, h.channel]
  rfl

theorem Seats.post {recruit : Worker σ}
    (h : world.Seats number (.taken (.done (some recruit)) outbox content)) (command : Command) :
    ∃ lanes, world.post number command = (.ok (), { world with lanes }) ∧
      ({ world with lanes } : World σ).Seats number
        (.taken (recruit.attend [command]) outbox content) := by
  obtain ⟨hholds, lane, hlane, hopen, hahead, houtbox⟩ := h
  have hgoes : lane.isEnded = false := by
    cases hended : lane.isEnded with
    | false => rfl
    | true => cases hahead.symm.trans (Lane.ahead_of_isEnded hended)
  refine ⟨world.lanes.set number { lane with inbox := lane.inbox ++ [command] }, ?_, hholds,
    { lane with inbox := lane.inbox ++ [command] }, ?_, hopen, ?_, houtbox⟩
  · simp only [World.post, hlane, Lane.post, hopen, hgoes, Bool.or_self, Bool.false_eq_true,
      if_false, Channel.carry_command]
  · rw [lookup_set hlane, if_pos rfl]
  · rw [Lane.ahead_post, hahead]
    rfl

theorem Seats.work (h : world.Seats number place) (hhouses : world.Houses a)
    (hheeds : place.Heeds) (hwork : world.work worker = some world') :
    ∃ lanes place', world' = { world with lanes } ∧ place.Goes place' ∧
      world'.Seats number place' := by
  simp only [World.work, Option.bind_eq_bind, Option.bind_eq_some_iff, Option.pure_def,
    Option.some.injEq, Prod.exists] at hwork
  obtain ⟨lane, hlane, lane', storage, hstep, rfl⟩ := hwork
  have hsane := hhouses.sane worker lane hlane
  obtain ⟨held, -, hheld⟩ := hhouses.content hlane
  obtain ⟨-, rfl⟩ := hsane.step (hhouses.named hlane) hheld hstep
  refine ⟨world.lanes.set worker lane', ?_⟩
  cases place with
  | vacant => exact ⟨_, rfl, .stay, (List.length_set ..).trans h⟩
  | cleared => exact ⟨_, rfl, .stay, (List.length_set ..).trans h.1, h.2⟩
  | taken ahead outbox content =>
      obtain ⟨hholds, seated, hseated, hopen, rfl, rfl⟩ := h
      by_cases hsame : number = worker
      · subst hsame
        obtain rfl : lane = seated := Option.some.inj (hlane.symm.trans hseated)
        have hset : (world.lanes.set number lane')[number]? = some lane' := by
          rw [lookup_set hlane, if_pos rfl]
        obtain ⟨hopen', hproceeds⟩ :=
          Lane.step_proceeds hopen hsane (hhouses.named hlane) hholds hheeds hstep
        cases hproceeds with
        | nears hahead houtbox hdelay =>
            exact ⟨_, rfl, .stay, hholds, lane', hset, hopen', hahead, houtbox⟩
        | advances events hadvances houtbox =>
            exact ⟨_, rfl, .advance hadvances, hholds, lane', hset, hopen', rfl, houtbox⟩
      · -- Another worker has a lane of its own.
        refine ⟨_, rfl, .stay, hholds, seated, ?_, hopen, rfl, rfl⟩
        rw [lookup_set hlane, if_neg hsame]
        exact hseated

theorem Seats.crash (h : world.Seats number place) (hother : worker ≠ number) :
    (world.crash worker).Seats number place := by
  cases place with
  | vacant => exact (List.length_modify ..).trans h
  | cleared => exact ⟨(List.length_modify ..).trans h.1, h.2⟩
  | taken ahead outbox content =>
      obtain ⟨hholds, lane, hlane, hrest⟩ := h
      refine ⟨hholds, lane, ?_, hrest⟩
      simp only [World.crash, List.getElem?_modify, if_neg hother, hlane, Option.map_eq_map,
        Option.map_some]

theorem Seats.event {ahead : Work (Option (Worker σ))} {event : Event}
    (h : world.Seats number (.taken ahead outbox content))
    (hevent : world.event? number = some (event, world')) :
    ∃ lanes events, outbox = event :: events ∧ world' = { world with lanes } ∧
      world'.Seats number (.taken ahead events content) := by
  obtain ⟨hholds, lane, hlane, hopen, rfl, rfl⟩ := h
  simp only [World.event?, hlane, Option.bind_eq_bind, Option.bind_some] at hevent
  split at hevent
  · cases hevent
  · rename_i event events houtbox
    cases hevent
    refine ⟨_, events, houtbox, rfl, hholds, { lane with outbox := events }, ?_, hopen, rfl, rfl⟩
    rw [lookup_set hlane, if_pos rfl]

theorem Seats.exists_event {ahead : Work (Option (Worker σ))} {event : Event}
    {events : List Event} (h : world.Seats number (.taken ahead (event :: events) content)) :
    ∃ lanes, world.event? number = some (event, { world with lanes }) ∧
      ({ world with lanes } : World σ).Seats number (.taken ahead events content) := by
  obtain ⟨hholds, lane, hlane, hopen, rfl, houtbox⟩ := h
  refine ⟨world.lanes.set number { lane with outbox := events }, ?_, hholds,
    { lane with outbox := events }, ?_, hopen, rfl, rfl⟩
  · simp only [World.event?, hlane, Option.bind_eq_bind, Option.bind_some, houtbox,
      Option.pure_def]
  · rw [lookup_set hlane, if_pos rfl]

theorem Seats.unique {ahead : Work (Option (Worker σ))}
    (h : world.Seats number (.taken ahead outbox content)) (h' : world.Seats number place) :
    place = .taken ahead outbox content := by
  obtain ⟨hholds, lane, hlane, -, rfl, rfl⟩ := h
  have hvacant (hlength : world.lanes.length = number) : False := by
    rw [← hlength, List.getElem?_length] at hlane
    cases hlane
  cases place with
  | vacant => exact (hvacant h').elim
  | cleared => exact (hvacant h'.1).elim
  | taken ahead outbox content' =>
      obtain ⟨hholds', other, hother, -, rfl, rfl⟩ := h'
      cases hlane.symm.trans hother
      cases hholds.read.symm.trans hholds'.read
      rfl

theorem Seats.isEnded_eq {ahead : Work (Option (Worker σ))}
    (h : world.Seats number (.taken ahead outbox content)) (hgoes : ahead ≠ .done none) :
    ∃ lane, world.lanes[number]? = some lane ∧ lane.isEnded = false ∧ lane.outbox = outbox := by
  obtain ⟨-, lane, hlane, -, hahead, houtbox⟩ := h
  refine ⟨lane, hlane, ?_, houtbox⟩
  cases hended : lane.isEnded with
  | false => rfl
  | true => exact absurd (hahead.symm.trans (Lane.ahead_of_isEnded hended)) hgoes

theorem Seats.isGone_eq {ahead : Work (Option (Worker σ))}
    (h : world.Seats number (.taken ahead outbox content)) (hgoes : ahead ≠ .done none) :
    world.isGone number = false := by
  obtain ⟨lane, hlane, hended, -⟩ := h.isEnded_eq hgoes
  simp only [World.isGone, hlane, hended, Bool.false_and]

theorem Seats.isQuiet_eq {ahead : Work (Option (Worker σ))}
    (h : world.Seats number (.taken ahead [] content)) (hgoes : ahead ≠ .done none) :
    world.isQuiet number = true := by
  obtain ⟨lane, hlane, hended, houtbox⟩ := h.isEnded_eq hgoes
  simp only [World.isQuiet, hlane, hended, houtbox, List.isEmpty_nil, Bool.not_false,
    Bool.and_self]

end World
end ScriptConsole
