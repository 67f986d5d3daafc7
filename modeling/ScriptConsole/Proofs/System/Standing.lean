import ScriptConsole.Proofs.Script.Endings
import ScriptConsole.Proofs.Session.Reference
import ScriptConsole.Proofs.System.Lane

/-!
Where a worker stands whose interpreter boots, whose requests for input are not timed and whose
texts all come to an end of their own.
-/

namespace ScriptConsole

/-- What a worker is for. -/
structure Service (σ : Type) where
  interpreter : Interpreter σ
  source : BufferSource
  setup : Setup
  /-- The interpreter when it has booted. -/
  state : σ
  boots : interpreter.boot ⟨setup.baseUrl, setup.packages⟩ = .ready state
  untimed : setup.inputTimeout = none
  isPlain : interpreter.IsPlain

inductive Standing (σ : Type) where
  /-- It was told nothing. -/
  | unborn
  | booting
  | free (live : Live σ)
  | running (bridge : Bridge) (execution : Execution σ)
  /-- A text has asked for a line. -/
  | asking (bridge : Bridge) (request : UInt64) (next : Except HostError String → Execution σ)

variable {σ : Type}

/-- The text comes to an end of its own, and shows no empty result. -/
def Execution.IsPlain (execution : Execution σ) : Prop :=
  execution.Ends fun ended => ended.1.IsOrderly ∧ ended.1 ≠ .ok (some "")

/-- What a worker that finds this content in the buffer says next, and where it gets. -/
inductive Standing.Goes (service : Service σ) (content : Content) :
    Standing σ → List Event → Standing σ → Prop where
  | stay {standing : Standing σ} : Goes service content standing [] standing
  | booted : Goes service content .booting [.initOk]
      (.free ⟨service.state, Worker.newBridge service.setup⟩)
  | stdout {bridge : Bridge} {text : String} {next : Except HostError Unit → Execution σ} :
      Goes service content (.running bridge (.stdout text next)) [.stdout text]
        (.running bridge (next (.ok ())))
  | stderr {bridge : Bridge} {text : String} {next : Except HostError Unit → Execution σ} :
      Goes service content (.running bridge (.stderr text next)) [.stderr text]
        (.running bridge (next (.ok ())))
  | asked {bridge : Bridge} {prompt : Option String}
      {next : Except HostError String → Execution σ} :
      Goes service content (.running bridge (.stdin prompt next)) [bridge.request prompt]
        (.asking bridge.advance bridge.nextRequest next)
  | answered {bridge : Bridge} {request sequence : UInt64} {text : String}
      {next : Except HostError String → Execution σ}
      (hcontent : content = .line request sequence text)
      (hnewer : content.isNewerThan bridge.lastSequence = true) :
      Goes service content (.asking bridge request next) []
        (.running { bridge with lastSequence := some sequence } (next (.ok text)))
  | ended {bridge : Bridge} {ending : Ending (Option String)} {state : σ}
      (hplain : ending ≠ .ok (some "")) :
      Goes service content (.running bridge (.done (ending, state)))
        [(RunOutcome.ofEnding ending).event] (.free ⟨state, bridge⟩)

/-- Nothing in the buffer but an answer to the request ends the wait for it. -/
def Standing.Heeds (content : Content) : Standing σ → Prop
  | .asking bridge request _ => content.isNewerThan bridge.lastSequence = true →
      ∃ sequence text, content = .line request sequence text
  | _ => True

/-- The worker has something to say, or it finds the answer that it waits for. -/
def Standing.IsReady (content : Content) : Standing σ → Prop
  | .booting | .running _ _ => True
  | .unborn | .free _ => False
  | .asking bridge _ _ => content.isNewerThan bridge.lastSequence = true

namespace Worker

/-- Run a text to its end and report how it ended. -/
def perform (worker : Worker σ) (bridge : Bridge) (execution : Execution σ) :
    Work (Except TransportError Unit × Worker σ) :=
  (Work.ofDialogue bridge execution).bind fun result => worker.conclude (report result)

/-- Report that the interpreter has booted. -/
def commence (service : Service σ) : Work (Except TransportError Unit × Worker σ) :=
  (Worker.new service.interpreter service.source).conclude
    (.initOk, some ⟨service.state, newBridge service.setup⟩)

end Worker

/-- What a worker is at that has no command before it. -/
inductive Task.Stands (service : Service σ) : Standing σ → Task σ → Prop where
  | opening {next} (hsource : service.source = .byUrl)
      (hnext : next (.ok ()) = Worker.commence service) :
      Stands service .booting
        (.busy (.openBuffer service.setup.bufferUrl (Worker.interval service.setup) next))
  | booted : Stands service .booting (.busy (Worker.commence service))
  | done {worker : Worker σ} {live : Live σ}
      (hinterpreter : worker.interpreter = service.interpreter) (hlive : worker.live = some live)
      (huntimed : live.bridge.timeout = none) :
      Stands service (.free live) (.busy (.done (.ok (), worker)))
  | idle {worker : Worker σ} {live : Live σ}
      (hinterpreter : worker.interpreter = service.interpreter) (hlive : worker.live = some live)
      (huntimed : live.bridge.timeout = none) :
      Stands service (.free live) (.idle worker)
  | running {worker : Worker σ} {bridge : Bridge} {execution : Execution σ}
      (hinterpreter : worker.interpreter = service.interpreter)
      (huntimed : bridge.timeout = none) (hplain : execution.IsPlain) :
      Stands service (.running bridge execution) (.busy (worker.perform bridge execution))
  | await {worker : Worker σ} {bridge : Bridge} {request : UInt64}
      {next : Except HostError String → Execution σ}
      (hinterpreter : worker.interpreter = service.interpreter)
      (huntimed : bridge.timeout = none) (hplain : ∀ answer, (next answer).IsPlain) :
      Stands service (.asking bridge request next)
        (.busy (.await bridge request fun line left => worker.perform left (next line)))
  | waiting {worker : Worker σ} {wait : Bridge.Wait}
      {next : Except HostError String → Execution σ}
      (hinterpreter : worker.interpreter = service.interpreter)
      (huntimed : wait.bridge.timeout = none) (hplain : ∀ answer, (next answer).IsPlain) :
      Stands service (.asking wait.bridge wait.request next)
        (.waiting wait fun line left => worker.perform left (next line))

/-- Where a worker stands that is not to stop. -/
inductive Lane.Stands (service : Service σ) : Standing σ → Lane σ → Prop where
  | unborn {file : Option FileBuffer} {outbox : List Event} :
      Stands service .unborn
        ⟨.idle (.new service.interpreter service.source), file, [], outbox, false⟩
  | working {standing : Standing σ} {task : Task σ} {file : Option FileBuffer}
      {outbox : List Event} (htask : task.Stands service standing) :
      Stands service standing ⟨task, file, [], outbox, false⟩
  | called {file : Option FileBuffer} {outbox : List Event} :
      Stands service .booting
        ⟨.idle (.new service.interpreter service.source), file, [.init service.setup], outbox,
          false⟩
  | due {live : Live σ} {task : Task σ} {file : Option FileBuffer} {code : String}
      {outbox : List Event} (htask : task.Stands service (.free live)) :
      Stands service (.running live.bridge (Reference.execute service.interpreter code live.state))
        ⟨task, file, [.run code], outbox, false⟩

variable {service : Service σ} {content : Content} {standing : Standing σ} {buffer : SharedBuffer}
  {channel : Channel} {now : Nat} {storage storage' : Storage} {lane lane' : Lane σ}

theorem Bridge.allowance_of_untimed {bridge : Bridge} (huntimed : bridge.timeout = none)
    (elapsed : Nat) : bridge.allowance elapsed = some bridge.slice := by
  rw [allowance, huntimed]

namespace Worker

theorem handle_init : Task.Stands service .booting
    (.busy ((Worker.new service.interpreter service.source).handle (.init service.setup))) := by
  obtain ⟨interpreter, source, setup, state, hboots, huntimed, hplain⟩ := service
  simp only [handle_eq, boot_eq, new]
  cases source with
  | attached =>
      simp only [openBuffer, Work.done_bind, hboots]
      exact .booted
  | byUrl =>
      simp only [openBuffer, Work.bind]
      refine .opening rfl ?_
      simp only [Work.done_bind, hboots]
      rfl

theorem handle_run {worker : Worker σ} {live : Live σ} (hlive : worker.live = some live)
    (code : String) : worker.handle (.run code) =
      worker.perform live.bridge (Reference.execute worker.interpreter code live.state) := by
  rw [handle_eq, Reference.execute_eq]
  exact runCode_eq hlive code

theorem perform_stdin (worker : Worker σ) (bridge : Bridge) (prompt : Option String)
    (next : Except HostError String → Execution σ) :
    ∃ more, worker.perform bridge (.stdin prompt next) = .post (bridge.request prompt) more ∧
      more (.ok ()) = .await bridge.advance bridge.nextRequest fun line left =>
        worker.perform left (next line) := by
  rw [perform, Work.ofDialogue, Work.bind]
  exact ⟨_, rfl, rfl⟩

end Worker

namespace Lane

theorem step_post {event : Event}
    {next : Except Refusal Unit → Work (Except TransportError Unit × Worker σ)}
    {file : Option FileBuffer}
    {inbox : List Command} {outbox : List Event} :
    step channel buffer now ⟨.busy (.post event next), file, inbox, outbox, false⟩ storage =
      some (⟨.busy (next (.ok ())), file, inbox, outbox ++ [event], false⟩, storage) := by
  simp only [step, postEvent, Bool.false_eq_true, if_false, Channel.carry_event]

theorem report_event {ending : Ending (Option String)} (state : σ) (bridge : Bridge) :
    (Worker.report ((ending, state), bridge)).1 = (RunOutcome.ofEnding ending).event := by
  cases ending <;> rfl

/-- The worker gets from where it stands to where it may go from there. -/
def Moves (service : Service σ) (content : Content) (standing : Standing σ) (lane lane' : Lane σ) :
    Prop :=
  ∃ events standing', standing.Goes service content events standing' ∧
    lane'.Stands service standing' ∧ lane'.outbox = lane.outbox ++ events

theorem Moves.stay (h : lane'.Stands service standing) (houtbox : lane'.outbox = lane.outbox) :
    Moves service content standing lane lane' :=
  ⟨[], standing, .stay, h, by rw [houtbox, List.append_nil]⟩

theorem running_moves {worker : Worker σ} {bridge : Bridge} {execution : Execution σ}
    {file : Option FileBuffer} {outbox : List Event}
    (hinterpreter : worker.interpreter = service.interpreter)
    (huntimed : bridge.timeout = none) (hplain : execution.IsPlain)
    (hstep : step channel buffer now
      ⟨.busy (worker.perform bridge execution), file, [], outbox, false⟩ storage =
        some (lane', storage')) :
    storage' = storage ∧ lane'.file = file ∧ Moves service content (.running bridge execution)
      ⟨.busy (worker.perform bridge execution), file, [], outbox, false⟩ lane' := by
  cases execution with
  | done ended =>
      obtain ⟨ending, state⟩ := ended
      cases hstep.symm.trans step_post
      refine ⟨rfl, rfl, _, _, .ended hplain.2, ?_, by rw [report_event]⟩
      cases ending with
      | ok output => exact .working (.done hinterpreter rfl huntimed)
      | raised error => exact .working (.done hinterpreter rfl huntimed)
      | panicked message => exact absurd rfl (hplain.1 message)
  | stdout text next =>
      cases hstep.symm.trans step_post
      exact ⟨rfl, rfl, _, _, .stdout,
        .working (.running hinterpreter huntimed (hplain _)), rfl⟩
  | stderr text next =>
      cases hstep.symm.trans step_post
      exact ⟨rfl, rfl, _, _, .stderr,
        .working (.running hinterpreter huntimed (hplain _)), rfl⟩
  | stdin prompt next =>
      obtain ⟨more, hpost, hmore⟩ := worker.perform_stdin bridge prompt next
      rw [hpost] at hstep ⊢
      cases hstep.symm.trans step_post
      rw [hmore]
      exact ⟨rfl, rfl, _, _, .asked, .working (.await hinterpreter huntimed hplain), rfl⟩

theorem waiting_moves {worker : Worker σ} {wait : Bridge.Wait} {file : Option FileBuffer}
    {outbox : List Event} {next : Except HostError String → Execution σ}
    (hinterpreter : worker.interpreter = service.interpreter)
    (huntimed : wait.bridge.timeout = none) (hplain : ∀ answer, (next answer).IsPlain)
    (hheeds : (Standing.asking wait.bridge wait.request next).Heeds content)
    {progress : Bridge.Progress}
    (hprogress : wait.step now false (.ok content) = progress)
    (hlook : lookOn
      ⟨.waiting wait fun line left => worker.perform left (next line), file, [], outbox, false⟩ wait
      (fun line left => worker.perform left (next line)) progress = some lane') :
    lane'.file = file ∧ Moves service content (.asking wait.bridge wait.request next)
      ⟨.waiting wait fun line left => worker.perform left (next line), file, [], outbox, false⟩
      lane' := by
  have hstay {stage : Bridge.Stage} (hwaiting : progress = .waiting { wait with stage }) :
      lane'.file = file ∧ Moves service content (.asking wait.bridge wait.request next)
        ⟨.waiting wait fun line left => worker.perform left (next line), file, [], outbox, false⟩
        lane' := by
    rw [hwaiting, lookOn] at hlook
    split at hlook
    · cases hlook
    · cases hlook
      exact ⟨rfl, .stay (.working
        (@Task.Stands.waiting _ _ _ { wait with stage } _ hinterpreter huntimed hplain)) rfl⟩
  obtain ⟨bridge, request, since, stage⟩ := wait
  cases stage with
  | checking =>
      simp only [Bridge.Wait.step, Bridge.Wait.check, Bridge.allowance_of_untimed huntimed,
        Bool.false_eq_true, if_false] at hprogress
      exact hstay hprogress.symm
  | reading deadline =>
      simp only [Bridge.Wait.step, Bridge.Wait.look] at hprogress
      cases hnewer : content.isNewerThan bridge.lastSequence with
      | true =>
          -- What is newer is the line for this request, which is all that the session writes.
          obtain ⟨sequence, text, rfl⟩ := hheeds hnewer
          simp only [hnewer, if_true, Bridge.Wait.receive] at hprogress
          subst hprogress
          cases hlook
          exact ⟨rfl, _, _, .answered rfl hnewer,
            .working (.running hinterpreter huntimed (hplain _)), (List.append_nil _).symm⟩
      | false =>
          simp only [hnewer, Bool.false_eq_true, if_false] at hprogress
          split at hprogress
          · exact hstay hprogress.symm
          · exact hstay hprogress.symm

theorem Stands.step (h : lane.Stands service standing) (hheeds : standing.Heeds content)
    (hholds : buffer.Holds content storage) (hreads : lane.Reads buffer)
    (hnamed : service.source = .byUrl → buffer.Named) (hurl : service.setup.bufferUrl = buffer.url)
    (hstep : lane.step channel buffer now storage = some (lane', storage')) :
    storage' = storage ∧ lane'.Reads buffer ∧ Moves service content standing lane lane' := by
  cases h with
  | unborn => cases hstep
  | called =>
      cases hstep
      refine ⟨rfl, hreads, .stay (.working ?_) rfl⟩
      exact Worker.handle_init
  | due htask =>
      cases htask with
      | done hinterpreter hlive huntimed =>
          cases hstep
          exact ⟨rfl, hreads, .stay (.due (.idle hinterpreter hlive huntimed)) rfl⟩
      | @idle worker live hinterpreter hlive huntimed =>
          cases hstep
          refine ⟨rfl, hreads, .stay (.working ?_) rfl⟩
          rw [Worker.handle_run hlive, hinterpreter]
          refine .running hinterpreter huntimed ?_
          rw [Execution.IsPlain, Reference.execute_eq]
          exact service.isPlain _ _
  | working htask =>
      cases htask with
      | opening hsource hnext =>
          obtain ⟨opened, hopen, hfile⟩ := hholds.exists_ofUrl (hnamed hsource)
          simp only [Lane.step, hurl, hopen] at hstep
          cases hstep
          rw [hnext]
          refine ⟨rfl, ?_, .stay (.working .booted) rfl⟩
          rintro _ ⟨⟩
          exact hfile
      | booted =>
          cases hstep.symm.trans step_post
          have huntimed : (Worker.newBridge service.setup).timeout = none := by
            rw [Worker.newBridge, service.untimed]
            rfl
          exact ⟨rfl, hreads, _, _, .booted, .working (.done rfl rfl huntimed), rfl⟩
      | done hinterpreter hlive huntimed =>
          cases hstep
          exact ⟨rfl, hreads, .stay (.working (.idle hinterpreter hlive huntimed)) rfl⟩
      | idle => cases hstep
      | running hinterpreter huntimed hplain =>
          obtain ⟨rfl, hfile, hmoves⟩ := running_moves hinterpreter huntimed hplain hstep
          refine ⟨rfl, ?_, hmoves⟩
          rw [Reads, hfile]
          exact hreads
      | @await worker bridge request next hinterpreter huntimed hplain =>
          cases hstep
          exact ⟨rfl, hreads, .stay (.working (@Task.Stands.waiting _ _ _
            (bridge.await request now) _ hinterpreter huntimed hplain)) rfl⟩
      | waiting hinterpreter huntimed hplain =>
          simp only [Lane.step, hreads.read_eq, hholds.read, Option.map_eq_some_iff,
            Prod.mk.injEq] at hstep
          obtain ⟨looker, hlook, rfl, rfl⟩ := hstep
          obtain ⟨hfile, hmoves⟩ := waiting_moves hinterpreter huntimed hplain hheeds rfl hlook
          refine ⟨rfl, ?_, hmoves⟩
          rw [Reads, hfile]
          exact hreads

/-! ### How the session and the worker meet -/

theorem Stands.heard (h : lane.Stands service standing) (outbox : List Event) :
    ({ lane with outbox } : Lane σ).Stands service standing := by
  cases h with
  | unborn => exact .unborn
  | working htask => exact .working htask
  | called => exact .called
  | due htask => exact .due htask

theorem Stands.goes (h : lane.Stands service standing) :
    lane.stopped = false ∧ lane.isEnded = false := by
  cases h with
  | working htask => cases htask <;> exact ⟨rfl, rfl⟩
  | unborn => exact ⟨rfl, rfl⟩
  | called => exact ⟨rfl, rfl⟩
  | due htask => cases htask <;> exact ⟨rfl, rfl⟩

theorem Stands.call (h : lane.Stands service .unborn) :
    ({ lane with inbox := lane.inbox ++ [.init service.setup] } : Lane σ).Stands service
      .booting := by
  cases h with
  | unborn => exact .called
  | working htask => cases htask

theorem Stands.post {live : Live σ} (h : lane.Stands service (.free live)) (code : String) :
    ({ lane with inbox := lane.inbox ++ [.run code] } : Lane σ).Stands service
      (.running live.bridge (Reference.execute service.interpreter code live.state)) := by
  cases h with
  | working htask => exact .due htask

/-! ### That a worker goes on -/

/-- How many steps a worker takes at most before it says something. -/
def lag (lane : Lane σ) : Nat :=
  match lane.task with
  | .busy (.done _) | .busy (.await _ _ _) => 3
  | .idle _ | .waiting ⟨_, _, _, .checking⟩ _ => 2
  | .busy (.openBuffer _ _ _) | .waiting ⟨_, _, _, .reading _⟩ _ => 1
  | .busy (.post _ _) | .ended => 0

theorem exists_perform (worker : Worker σ) (bridge : Bridge) (execution : Execution σ) :
    ∃ event next, worker.perform bridge execution = .post event next := by
  cases execution with
  | done ended => exact ⟨_, _, rfl⟩
  | stdout text next => exact ⟨_, _, rfl⟩
  | stderr text next => exact ⟨_, _, rfl⟩
  | stdin prompt next =>
      obtain ⟨more, hpost, -⟩ := worker.perform_stdin bridge prompt next
      exact ⟨_, _, hpost⟩

theorem lag_perform {worker : Worker σ} {bridge : Bridge} {execution : Execution σ}
    {file : Option FileBuffer} {inbox : List Command} {outbox : List Event} :
    lag ⟨.busy (worker.perform bridge execution), file, inbox, outbox, false⟩ = 0 := by
  obtain ⟨event, next, hpost⟩ := exists_perform worker bridge execution
  rw [hpost, lag]

theorem Stands.goes_on (h : lane.Stands service standing) (hready : standing.IsReady content)
    (hheeds : standing.Heeds content)
    (hholds : buffer.Holds content storage) (hreads : lane.Reads buffer)
    (hnamed : service.source = .byUrl → buffer.Named)
    (hurl : service.setup.bufferUrl = buffer.url) :
    ∃ lane', lane.step channel buffer now storage = some (lane', storage) ∧
      (lane'.outbox = lane.outbox → lane'.lag < lane.lag) := by
  cases h with
  | unborn => exact hready.elim
  | called =>
      refine ⟨_, rfl, fun _ => ?_⟩
      have htask : Task.Stands service .booting _ := Worker.handle_init
      show lag ⟨.busy _, _, _, _, _⟩ < 2
      generalize (Worker.new service.interpreter service.source).handle (.init service.setup) = work
        at htask ⊢
      cases htask with
      | opening => exact Nat.one_lt_two
      | booted => exact Nat.zero_lt_two
  | due htask =>
      cases htask with
      | done hinterpreter hlive huntimed => exact ⟨_, rfl, fun _ => Nat.lt_succ_self 2⟩
      | @idle worker live hinterpreter hlive huntimed =>
          refine ⟨_, rfl, fun _ => ?_⟩
          show lag ⟨.busy _, _, _, _, _⟩ < 2
          rw [Worker.handle_run hlive, lag_perform]
          exact Nat.zero_lt_two
  | working htask =>
      cases htask with
      | opening hsource hnext =>
          obtain ⟨opened, hopen, hfile⟩ := hholds.exists_ofUrl (hnamed hsource)
          refine ⟨_, by simp only [Lane.step, hurl, hopen]; rfl, fun _ => ?_⟩
          show lag ⟨.busy _, _, _, _, _⟩ < 1
          rw [hnext]
          exact Nat.zero_lt_one
      | booted =>
          exact ⟨_, step_post, by simp⟩
      | done hinterpreter hlive huntimed => exact hready.elim
      | idle => exact hready.elim
      | @running worker bridge execution hinterpreter huntimed hplain =>
          obtain ⟨event, next, hpost⟩ := exists_perform worker bridge execution
          rw [hpost]
          exact ⟨_, step_post, by simp⟩
      | await hinterpreter huntimed hplain => exact ⟨_, rfl, fun _ => Nat.lt_succ_self 2⟩
      | @waiting worker wait next hinterpreter huntimed hplain =>
          simp only [Lane.step, hreads.read_eq, hholds.read]
          obtain ⟨bridge, request, since, stage⟩ := wait
          cases stage with
          | checking =>
              simp only [Bridge.Wait.step, Bridge.Wait.check, Bridge.allowance_of_untimed huntimed,
                Bool.false_eq_true, if_false, lookOn]
              rw [if_neg (by simp)]
              exact ⟨_, rfl, fun _ => Nat.lt_succ_self 1⟩
          | reading deadline =>
              -- It is ready while it waits, so the answer to its request is in the buffer.
              obtain ⟨sequence, text, rfl⟩ := hheeds hready
              have hnewer :
                  (Content.line request sequence text).isNewerThan bridge.lastSequence = true :=
                hready
              simp only [Bridge.Wait.step, Bridge.Wait.look, hnewer, if_true, Bridge.Wait.receive,
                lookOn]
              refine ⟨_, rfl, fun _ => ?_⟩
              show lag ⟨.busy _, _, _, _, _⟩ < 1
              rw [lag_perform]
              exact Nat.zero_lt_one

end Lane
end ScriptConsole
