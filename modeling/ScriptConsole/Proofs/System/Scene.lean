import ScriptConsole.Proofs.Session.Turns
import ScriptConsole.Proofs.System.Run
import ScriptConsole.Proofs.System.Telling

/-!
Where a session is and where its worker is meanwhile.
-/

namespace ScriptConsole

variable {σ : Type}

/-- What there is of a worker and of the buffer. -/
inductive Whereabouts (σ : Type) where
  | vacant
  /-- There is no worker yet, and the buffer holds nothing. -/
  | cleared
  | taken (standing : Standing σ) (outbox : List Event) (content : Content)

/-- What is to happen when the worker has booted leads to the reference. -/
inductive AfterBoot.Leads (service : Service σ) (session : Session) (r : Reference σ)
    (shown : List Entry) : AfterBoot → Prop where
  | reply (htyping : session.IsTyping r) (hentries : r.entries = shown)
      (hpause : r.pause = .idle service.state) : Leads service session r shown .reply
  | run {code : String} (hstatements : session.statements = .empty)
      (hcomes : r.Comes shown (Reference.execute service.interpreter code service.state)) :
      Leads service session r shown (.run code (.line (.statement code)))

theorem AfterBoot.Leads.alike {service : Service σ} {session session' : Session}
    {r : Reference σ} {shown : List Entry} {after : AfterBoot}
    (h : after.Leads service session r shown)
    (hstatements : session'.statements = session.statements)
    (hlast : session'.lastRun = session.lastRun) : after.Leads service session' r shown := by
  cases h with
  | reply htyping hentries hpause =>
      exact .reply ⟨hstatements.trans htyping.statements, htyping.typing,
        hlast.trans htyping.lastRun⟩ hentries hpause
  | run hempty hcomes => exact .run (hstatements.trans hempty) hcomes

theorem Bridge.Before.isNewerThan {bridge : Bridge} {number : Nat} (h : bridge.Before number)
    (hnumber : number < UInt64.size) (request : UInt64) (text : String) :
    (Content.line request (UInt64.ofNat number) text).isNewerThan bridge.lastSequence = true := by
  cases hlast : bridge.lastSequence with
  | none => rfl
  | some seen =>
      obtain ⟨earlier, hearlier, rfl⟩ := h seen hlast
      exact Lane.isNewerThan_of_lt hearlier hnumber text

/-- The user may type after this reply. -/
def MayType (last : Option (Except SessionError Reply)) : Prop :=
  last = none ∨ ∃ reply, last = some (.ok reply) ∧ reply.isUnfinished = false

theorem MayType.finished {last : Option (Except SessionError Reply)} (h : MayType last)
    {reply : Reply} (hlast : last = some (.ok reply)) : reply.isUnfinished = false := by
  rcases h with hnone | ⟨other, hsame, hfinished⟩
  · cases hnone.symm.trans hlast
  · cases hsame.symm.trans hlast
    exact hfinished

/-- What a session is at, and where its worker is meanwhile. `answers` lines were written for
the worker so far, and at most `limit` may be. -/
inductive Scene (service : Service σ) (config : Config) (limit : Nat) (r : Reference σ) :
    Nat → Whereabouts σ → Activity → Prop where
  | fresh {session : Session} {last : Option (Except SessionError Reply)}
      (hfresh : session.IsFresh config service.setup.bufferUrl r.entries)
      (hpending : session.pending = none) (htyping : session.IsTyping r)
      (houtcomes : r.outcomes = []) (hpause : r.pause = .idle service.state)
      (hmay : MayType last) :
      Scene service config limit r 0 .vacant (.resting session last)
  | clearing {session : Session} {shown : List Entry} {after : AfterBoot}
      {next : Except BufferError Unit → Move}
      (hfresh : session.IsFresh config service.setup.bufferUrl shown)
      (hleads : after.Leads service session r shown) (hnext : next (.ok ()) = session.spawn after) :
      Scene service config limit r 0 .vacant (.acting (.write .empty next) none)
  | spawning {session : Session} {shown : List Entry} {after : AfterBoot}
      {next more : Except TransportError Unit → Move} (hbooting : session.IsBooting config shown)
      (hleads : after.Leads service session r shown)
      (hnext : next (.ok ()) = .post 0 (.boot config service.setup.bufferUrl) more)
      (hmore : more (.ok ()) = session.awaitBoot after) :
      Scene service config limit r 0 .cleared (.acting (.spawn next) none)
  | calling {session : Session} {shown : List Entry} {after : AfterBoot}
      {next : Except TransportError Unit → Move} (hbooting : session.IsBooting config shown)
      (hleads : after.Leads service session r shown)
      (hnext : next (.ok ()) = session.awaitBoot after) :
      Scene service config limit r 0 (.taken .unborn [] .empty)
        (.acting (.post 0 (.init service.setup) next) none)
  | booting {session : Session} {shown : List Entry} {after : AfterBoot} {stop : Until}
      (hbooting : session.IsBooting config shown) (hleads : after.Leads service session r shown)
      (hstop : stop ≠ .drained) :
      Scene service config limit r 0 (.taken .booting [] .empty)
        (.listening session (.boot after) stop)
  | booted {session : Session} {shown : List Entry} {after : AfterBoot} {stop : Until}
      (hbooting : session.IsBooting config shown) (hleads : after.Leads service session r shown)
      (hstop : stop ≠ .drained) :
      Scene service config limit r 0
        (.taken (.free ⟨service.state, Worker.newBridge service.setup⟩) [.initOk] .empty)
        (.listening session (.boot after) stop)
  | idle {session : Session} {answers : Nat} {live : Live σ} {content : Content}
      {last : Option (Except SessionError Reply)} (hsits : session.Sits answers r.entries)
      (hpending : session.pending = none) (htyping : session.IsTyping r)
      (hcalm : live.bridge.Calm content answers)
      (hpause : r.pause = .idle live.state) (hmay : MayType last) :
      Scene service config limit r answers (.taken (.free live) [] content) (.resting session last)
  | posting {session : Session} {shown : List Entry} {answers : Nat} {live : Live σ}
      {content : Content} {code : String} {next : Except TransportError Unit → Move}
      {kept : Option Until} (hsits : session.Sits answers shown)
      (hstatements : session.statements = .empty) (hcalm : live.bridge.Calm content answers)
      (hcomes : r.Comes shown (Reference.execute service.interpreter code live.state))
      (hnext : next (.ok ()) = ({ session with pending := some .run, lastRun := none } :
        Session).reply (.line (.statement code))) :
      Scene service config limit r answers (.taken (.free live) [] content)
        (.acting (.post 0 (.run code) next) kept)
  | running {session : Session} {shown : List Entry} {answers : Nat} {standing : Standing σ}
      {outbox : List Event} {content : Content} {reply : Reply}
      (hsits : session.Sits answers shown) (hbusy : session.IsBusy)
      (htells : standing.Tells answers content r shown outbox)
      (hunfinished : reply.isUnfinished = true) :
      Scene service config limit r answers (.taken standing outbox content)
        (.resting session (some (.ok reply)))
  | listening {session : Session} {shown : List Entry} {answers : Nat} {standing : Standing σ}
      {outbox : List Event} {content : Content} (hsits : session.Sits answers shown)
      (hbusy : session.IsBusy) (htells : standing.Tells answers content r shown outbox) :
      Scene service config limit r answers (.taken standing outbox content)
        (.listening session (.wait none) .forever)
  | opening {session : Session} {shown : List Entry} {answers : Nat} {content : Content}
      {bridge : Bridge} {request : UInt64} {prompt : Option String}
      {more : Except HostError String → Execution σ} {next : Except BufferError Unit → Move}
      {stop : Until} (hsits : session.Sits answers shown) (hbusy : session.IsBusy)
      (hcalm : bridge.Calm content answers) (hpause : r.pause = .asking more)
      (hstatements : r.statements = .empty)
      (hentries : r.entries = shown ++ Entry.ofText? .output prompt)
      (hnext : next (.ok ()) = (session.openRequest request prompt).awaitQuiet none) :
      Scene service config limit r answers (.taken (.asking bridge request more) [] content)
        (.acting (.write .empty next) (some stop))
  | asked {session : Session} {answers : Nat} {content : Content} {bridge : Bridge}
      {request : UInt64} {prompt : Option String} {more : Except HostError String → Execution σ}
      (hsits : session.Sits answers r.entries) (hasked : session.HasAsked request)
      (hcalm : bridge.Calm content answers) (hpause : r.pause = .asking more)
      (hstatements : r.statements = .empty) :
      Scene service config limit r answers (.taken (.asking bridge request more) [] content)
        (.resting session (some (.ok (.waited (.awaitingInput prompt)))))
  | polling {session : Session} {shown : List Entry} {answers : Nat} {content : Content}
      {bridge : Bridge} {request : UInt64} {text : String}
      {more : Except HostError String → Execution σ} (hsits : session.Sits answers shown)
      (hasked : session.HasAsked request) (hcalm : bridge.Calm content answers)
      (hlimit : answers < limit)
      (hcomes : r.Comes (shown ++ [⟨.input, String.ofList (Text.dropLineEnd text.toList)⟩])
        (more (.ok (String.ofList (Text.dropLineEnd text.toList))))) :
      Scene service config limit r answers (.taken (.asking bridge request more) [] content)
        (.listening session (.poll (.line (some request) text)) .drained)
  | answering {session : Session} {shown : List Entry} {answers : Nat} {content : Content}
      {bridge : Bridge} {request : UInt64} {answer : String} {kept : Option Until}
      {more : Except HostError String → Execution σ} {next : Except BufferError Unit → Move}
      (hsits : session.Sits (answers + 1) shown) (hbusy : session.IsBusy)
      (hcalm : bridge.Calm content answers) (hlimit : answers < limit)
      (hcomes : r.Comes shown (more (.ok answer)))
      (hnext : next (.ok ()) = session.reply (.line (.input answer))) :
      Scene service config limit r answers (.taken (.asking bridge request more) [] content)
        (.acting (.write (.line request (UInt64.ofNat answers) answer) next) kept)


namespace Scene

variable {service : Service σ} {config : Config} {limit answers : Nat} {r : Reference σ}
  {standing standing' : Standing σ} {outbox events : List Event} {content : Content}
  {activity : Activity}

theorem heeds (h : Scene service config limit r answers (.taken standing outbox content) activity) :
    standing.Heeds content := by
  have hasking {bridge : Bridge} {request : UInt64} {more : Except HostError String → Execution σ}
      (hcalm : bridge.Calm content answers) :
      (Standing.asking bridge request more).Heeds content :=
    fun hnewer => absurd (hcalm.stale.symm.trans hnewer) (by simp)
  cases h with
  | running hsits hbusy htells => exact htells.heeds
  | listening hsits hbusy htells => exact htells.heeds
  | opening hsits hbusy hcalm => exact hasking hcalm
  | asked hsits hasked hcalm => exact hasking hcalm
  | polling hsits hasked hcalm => exact hasking hcalm
  | answering hsits hbusy hcalm => exact hasking hcalm
  | _ => exact trivial

theorem goes (h : Scene service config limit r answers (.taken standing outbox content) activity)
    (hgoes : standing.Goes service content events standing') :
    Scene service config limit r answers (.taken standing' (outbox ++ events) content)
      activity := by
  have hstill {bridge : Bridge} (hcalm : bridge.Calm content answers)
      (hnewer : content.isNewerThan bridge.lastSequence = true) : False :=
    absurd (hcalm.stale.symm.trans hnewer) (by simp)
  cases h with
  | calling hbooting hleads hnext =>
      cases hgoes with
      | stay => exact .calling hbooting hleads hnext
  | booting hbooting hleads hstop =>
      cases hgoes with
      | stay => exact .booting hbooting hleads hstop
      | booted => exact .booted hbooting hleads hstop
  | booted hbooting hleads hstop =>
      cases hgoes with
      | stay => exact .booted hbooting hleads hstop
  | idle hsits hpending htyping hcalm hpause hmay =>
      cases hgoes with
      | stay => exact .idle hsits hpending htyping hcalm hpause hmay
  | posting hsits hstatements hcalm hcomes hnext =>
      cases hgoes with
      | stay => exact .posting hsits hstatements hcalm hcomes hnext
  | running hsits hbusy htells hunfinished =>
      exact .running hsits hbusy (htells.goes hgoes) hunfinished
  | listening hsits hbusy htells => exact .listening hsits hbusy (htells.goes hgoes)
  | opening hsits hbusy hcalm hpause hstatements hentries hnext =>
      cases hgoes with
      | stay => exact .opening hsits hbusy hcalm hpause hstatements hentries hnext
      | answered hline hnewer => exact (hstill hcalm hnewer).elim
  | asked hsits hasked hcalm hpause hstatements =>
      cases hgoes with
      | stay => exact .asked hsits hasked hcalm hpause hstatements
      | answered hline hnewer => exact (hstill hcalm hnewer).elim
  | polling hsits hasked hcalm hlimit hcomes =>
      cases hgoes with
      | stay => exact .polling hsits hasked hcalm hlimit hcomes
      | answered hline hnewer => exact (hstill hcalm hnewer).elim
  | answering hsits hbusy hcalm hlimit hcomes hnext =>
      cases hgoes with
      | stay => exact .answering hsits hbusy hcalm hlimit hcomes hnext
      | answered hline hnewer => exact (hstill hcalm hnewer).elim

end Scene

/-- The surroundings of a session whose worker boots. -/
structure World.Hosts (world : World σ) (service : Service σ) (config : Config) : Prop where
  interpreter : world.interpreter = service.interpreter
  source : world.channel.source = service.source
  setup : Command.boot config world.buffer.url = .init service.setup
  clear : world.jam = none
  writable : world.buffer.IsWritable world.storage
  reaches : world.channel = .piped → world.buffer.isReachable = true ∧ world.buffer.Named

def World.Has (world : World σ) (service : Service σ) : Whereabouts σ → Prop
  | .vacant => world.lanes = []
  | .cleared => world.lanes = [] ∧ world.buffer.Holds .empty world.storage
  | .taken standing outbox content => world.buffer.Holds content world.storage ∧
      ∃ lane, world.lanes = [lane] ∧ lane.Stands service standing ∧ lane.outbox = outbox ∧
        lane.Reads world.buffer

namespace World

variable {world world' : World σ} {service : Service σ} {config : Config} {standing : Standing σ}
  {outbox : List Event} {content : Content} {lane : Lane σ}

theorem Hosts.url (h : world.Hosts service config) :
    service.setup.bufferUrl = world.buffer.url := by
  have hsetup := h.setup
  simp only [Command.boot, Command.init.injEq] at hsetup
  rw [← hsetup]

theorem Hosts.named (h : world.Hosts service config) (hsource : service.source = .byUrl) :
    world.buffer.Named := by
  cases hchannel : world.channel with
  | piped => exact (h.reaches hchannel).2
  | direct =>
      have hattached := h.source
      rw [hchannel, hsource] at hattached
      cases hattached

theorem Hosts.goes_on (h : world.Hosts service config) (lanes : List (Lane σ)) (clock : Nat) :
    ({ world with lanes, clock } : World σ).Hosts service config :=
  { h with }

theorem Hosts.write (h : world.Hosts service config) (content : Content) :
    ∃ storage, world.write content = (.ok (), { world with storage }) ∧
      world.buffer.Holds content storage ∧
      ({ world with storage } : World σ).Hosts service config := by
  obtain ⟨storage, hwrite, hholds, hwritable⟩ := h.writable.write content
  refine ⟨storage, ?_, hholds, h.interpreter, h.source, h.setup, h.clear, hwritable, h.reaches⟩
  rw [World.write, h.clear, hwrite]

theorem Hosts.spawn (h : world.Hosts service config) (hlanes : world.lanes = []) :
    world.spawn = (.ok (), { world with
      lanes := [.new (.new service.interpreter service.source)] }) := by
  have hreachable : ¬ (world.channel = .piped ∧ ¬ world.buffer.isReachable) :=
    fun hunreachable => hunreachable.2 (h.reaches hunreachable.1).1
  rw [World.spawn, if_neg hreachable, hlanes, h.interpreter, h.source]
  rfl

theorem post_of_stands (hlanes : world.lanes = [lane]) (hstands : lane.Stands service standing)
    (command : Command) :
    world.post 0 command = (.ok (), { world with
      lanes := [{ lane with inbox := lane.inbox ++ [command] }] }) := by
  obtain ⟨hopen, hgoes⟩ := hstands.goes
  simp only [World.post, hlanes, List.getElem?_cons_zero, Lane.post, hopen, hgoes, Bool.or_self,
    Bool.false_eq_true, if_false, Channel.carry_command, List.set_cons_zero]

theorem Hosts.work (h : world.Hosts service config)
    (hhas : world.Has service (.taken standing outbox content)) (hheeds : standing.Heeds content)
    {worker : Nat} (hwork : world.work worker = some world') :
    world'.Hosts service config ∧ ∃ events standing',
      standing.Goes service content events standing' ∧
        world'.Has service (.taken standing' (outbox ++ events) content) := by
  obtain ⟨hholds, lane, hlanes, hstands, rfl, hreads⟩ := hhas
  simp only [World.work, hlanes, Option.bind_eq_bind, Option.bind_eq_some_iff, Option.pure_def,
    Option.some.injEq, Prod.exists] at hwork
  obtain ⟨taker, htaker, lane', storage, hstep, rfl⟩ := hwork
  cases worker with
  | succ other => cases htaker
  | zero =>
      cases htaker
      obtain ⟨rfl, hreads', events, standing', hgoes, hstands', houtbox⟩ :=
        hstands.step hheeds hholds hreads h.named h.url hstep
      exact ⟨h.goes_on _ _, events, standing', hgoes,
        hholds, lane', rfl, hstands', houtbox, hreads'⟩

end World

end ScriptConsole
