import ScriptConsole.Proofs.Session.Recital
import ScriptConsole.Proofs.System.Ahead
import ScriptConsole.Proofs.System.Telling

/-!
A worker that boots and then runs one text. What the session has shown of the text, what it has
yet to hear and what the worker has yet to do add up to the recital of the text.
-/

namespace ScriptConsole

variable {σ : Type}

namespace Worker

/-- What a worker has yet to do of the last text that it was given. -/
def script (worker : Worker σ) (bridge : Bridge) (execution : Execution σ) :
    Work (Option (Worker σ)) :=
  (worker.perform bridge execution).bind (proceed (attend []))

/-- What a worker has yet to do whose text has asked for a line. -/
def hearken (worker : Worker σ) (bridge : Bridge) (request : UInt64)
    (next : Except HostError String → Execution σ) : Work (Option (Worker σ)) :=
  .await bridge request fun line left => worker.script left (next line)

variable (worker : Worker σ) (bridge : Bridge)

theorem attend_run {live : Live σ} (hlive : worker.live = some live) (code : String) :
    worker.attend [.run code] =
      worker.script live.bridge (Reference.execute worker.interpreter code live.state) := by
  rw [attend, handle_run hlive]
  rfl

theorem script_done (ending : Ending (Option String)) (state : σ) :
    ∃ more left, worker.script bridge (.done (ending, state)) =
      .post (RunOutcome.ofEnding ending).event more ∧ more (.ok ()) = .done (some left) := by
  rw [← Lane.report_event state bridge]
  exact ⟨_, _, rfl, rfl⟩

theorem script_stdout (text : String) (next : Except HostError Unit → Execution σ) :
    ∃ more, worker.script bridge (.stdout text next) = .post (.stdout text) more ∧
      more (.ok ()) = worker.script bridge (next (.ok ())) :=
  ⟨_, rfl, rfl⟩

theorem script_stderr (text : String) (next : Except HostError Unit → Execution σ) :
    ∃ more, worker.script bridge (.stderr text next) = .post (.stderr text) more ∧
      more (.ok ()) = worker.script bridge (next (.ok ())) :=
  ⟨_, rfl, rfl⟩

theorem script_stdin (prompt : Option String) (next : Except HostError String → Execution σ) :
    ∃ more, worker.script bridge (.stdin prompt next) = .post (bridge.request prompt) more ∧
      more (.ok ()) = worker.hearken bridge.advance bridge.nextRequest next := by
  obtain ⟨more, hpost, hmore⟩ := worker.perform_stdin bridge prompt next
  rw [script, hpost]
  refine ⟨_, rfl, ?_⟩
  simp only [hmore]
  rfl

/-- A worker of this kind once its interpreter has booted into a state. -/
def booted (interpreter : Interpreter σ) (source : BufferSource) (setup : Setup) (state : σ) :
    Worker σ :=
  ⟨interpreter, source, some ⟨state, newBridge setup⟩⟩

end Worker

namespace Work

variable {ahead ahead' : Work (Option (Worker σ))} {outbox events : List Event}
  {content : Content}

/-- What is ahead of a worker that boots, and what it has said. -/
inductive Boots (booted : Worker σ) : Work (Option (Worker σ)) → List Event → Prop where
  | opening {url : String} {interval : Duration} {more next}
      (hmore : more (.ok ()) = .post .initOk next) (hnext : next (.ok ()) = .done (some booted)) :
      Boots booted (.openBuffer url interval more) []
  | opened {next} (hnext : next (.ok ()) = .done (some booted)) :
      Boots booted (.post .initOk next) []
  | booted : Boots booted (.done (some booted)) [.initOk]

theorem boots_init {interpreter : Interpreter σ} {setup : Setup} {state : σ}
    (hboots : interpreter.boot ⟨setup.baseUrl, setup.packages⟩ = .ready state)
    (source : BufferSource) :
    Boots (.booted interpreter source setup state)
      ((Worker.new interpreter source).attend [.init setup]) [] := by
  rw [Worker.attend, Worker.handle_eq]
  simp only [Worker.boot_eq, Worker.new]
  cases source with
  | attached =>
      simp only [Worker.openBuffer, done_bind, hboots]
      exact .opened rfl
  | byUrl =>
      simp only [Worker.openBuffer, Work.bind]
      apply Boots.opening
      · simp only [done_bind, hboots]
        rfl
      · rfl

theorem Boots.heeds {booted : Worker σ} (h : Boots booted ahead outbox) : ahead.Heeds content := by
  cases h <;> trivial

theorem Boots.advances {booted : Worker σ} (h : Boots booted ahead outbox)
    (hadvances : ahead.Advances content events ahead') :
    Boots booted ahead' (outbox ++ events) := by
  cases h with
  | opening hmore hnext =>
      cases hadvances with
      | opened =>
          rw [hmore]
          exact .opened hnext
  | opened hnext =>
      cases hadvances with
      | post =>
          rw [hnext]
          exact .booted
  | booted => cases hadvances

/-- What was shown, what is to be heard and what is ahead of the worker add up to the recital. Of
the lines that the session wrote, `given` in all, these were answers to the text. -/
inductive Tells (begun : Execution σ) (answers : List String) (given : Nat) (content : Content)
    (shown : List Entry) : Work (Option (Worker σ)) → List Event → Prop where
  | running {worker : Worker σ} {bridge : Bridge} {execution : Execution σ} {outbox : List Event}
      (hcalm : bridge.Calm content given) (huntimed : bridge.timeout = none)
      (hwrites : ∀ event ∈ outbox, event.IsWrite)
      (hleads : begun.Leads answers (shown ++ told outbox) execution) :
      Tells begun answers given content shown (worker.script bridge execution) outbox
  | answered {worker : Worker σ} {bridge : Bridge} {request : UInt64} {number : Nat}
      {text : String} {next : Except HostError String → Execution σ}
      (hbefore : bridge.Before number) (hnumber : number < given)
      (hcontent : content = .line request (UInt64.ofNat number) text)
      (huntimed : bridge.timeout = none)
      (hleads : begun.Leads answers shown (next (.ok text))) :
      Tells begun answers given content shown (worker.hearken bridge request next) []
  | asked {worker : Worker σ} {bridge : Bridge} {request : UInt64} {prompt : Option String}
      {next : Except HostError String → Execution σ} {writes : List Event}
      (hcalm : bridge.Calm content given) (huntimed : bridge.timeout = none)
      (hwrites : ∀ event ∈ writes, event.IsWrite)
      (hleads : begun.Leads answers (shown ++ told writes) (.stdin prompt next)) :
      Tells begun answers given content shown (worker.hearken bridge request next)
        (writes ++ [.input request (Bridge.prompt prompt)])
  | ended {left : Worker σ} {ending : Ending (Option String)} {state : σ} {writes : List Event}
      (hwrites : ∀ event ∈ writes, event.IsWrite)
      (hleads : begun.Leads answers (shown ++ told writes) (.done (ending, state))) :
      Tells begun answers given content shown (.done (some left))
        (writes ++ [(RunOutcome.ofEnding ending).event])

variable {begun : Execution σ} {answers : List String} {given : Nat} {shown : List Entry}

theorem exists_script (worker : Worker σ) (bridge : Bridge) (execution : Execution σ) :
    ∃ event next, worker.script bridge execution = .post event next := by
  obtain ⟨event, next, hpost⟩ := Lane.exists_perform worker bridge execution
  rw [Worker.script, hpost]
  exact ⟨_, _, rfl⟩

theorem heeds_of_calm {worker : Worker σ} {bridge : Bridge} {request : UInt64}
    {next : Except HostError String → Execution σ} (hcalm : bridge.Calm content given)
    (huntimed : bridge.timeout = none) : (worker.hearken bridge request next).Heeds content :=
  ⟨huntimed, fun hnewer => absurd (hcalm.stale.symm.trans hnewer) (by simp)⟩

theorem not_advances_of_calm {worker : Worker σ} {bridge : Bridge}
    {next : Except HostError String → Execution σ} (hcalm : bridge.Calm content given) :
    ¬ (worker.hearken bridge request next).Advances content events ahead' := by
  intro hadvances
  cases hadvances with
  | answered hcontent hnewer => exact absurd (hcalm.stale.symm.trans hnewer) (by simp)

theorem Tells.heeds (h : Tells begun answers given content shown ahead outbox) :
    ahead.Heeds content := by
  cases h with
  | @running worker bridge execution hcalm huntimed hwrites hleads =>
      obtain ⟨event, next, hpost⟩ := exists_script worker bridge execution
      rw [hpost]
      exact trivial
  | answered hbefore hnumber hcontent huntimed hleads => exact ⟨huntimed, fun _ => ⟨_, _, hcontent⟩⟩
  | asked hcalm huntimed hwrites hleads => exact heeds_of_calm hcalm huntimed
  | ended hwrites hleads => exact trivial

theorem forall_writes_snoc {event : Event} (hwrites : ∀ write ∈ outbox, write.IsWrite)
    (hwrite : event.IsWrite) : ∀ write ∈ outbox ++ [event], write.IsWrite := by
  intro write hmem
  rcases List.mem_append.mp hmem with hmem | hmem
  · exact hwrites write hmem
  · rwa [List.mem_singleton.mp hmem]

theorem Tells.advances (h : Tells begun answers given content shown ahead outbox)
    (hadvances : ahead.Advances content events ahead') :
    Tells begun answers given content shown ahead' (outbox ++ events) := by
  cases h with
  | @running worker bridge execution outbox hcalm huntimed hwrites hleads =>
      cases execution with
      | done result =>
          obtain ⟨ending, state⟩ := result
          obtain ⟨more, left, hpost, hmore⟩ := worker.script_done bridge ending state
          rw [hpost] at hadvances
          cases hadvances with
          | post =>
              rw [hmore]
              exact .ended hwrites hleads
      | stdout text next =>
          obtain ⟨more, hpost, hmore⟩ := worker.script_stdout bridge text next
          rw [hpost] at hadvances
          cases hadvances with
          | post =>
              rw [hmore]
              refine .running hcalm huntimed (forall_writes_snoc hwrites trivial) ?_
              rw [told_snoc, ← List.append_assoc]
              exact hleads.stdout
      | stderr text next =>
          obtain ⟨more, hpost, hmore⟩ := worker.script_stderr bridge text next
          rw [hpost] at hadvances
          cases hadvances with
          | post =>
              rw [hmore]
              refine .running hcalm huntimed (forall_writes_snoc hwrites trivial) ?_
              rw [told_snoc, ← List.append_assoc]
              exact hleads.stderr
      | stdin prompt next =>
          obtain ⟨more, hpost, hmore⟩ := worker.script_stdin bridge prompt next
          rw [hpost] at hadvances
          cases hadvances with
          | post =>
              rw [hmore]
              exact .asked ⟨hcalm.stale, hcalm.before⟩ huntimed hwrites hleads
  | answered hbefore hnumber hcontent huntimed hleads =>
      cases hadvances with
      | answered hline hnewer =>
          -- The line in the buffer is the answer, and from now on it is no longer new.
          cases hcontent.symm.trans hline
          refine .running ⟨?_, ?_⟩ huntimed (by rintro _ ⟨⟩) ?_
          · simp [hline, Content.isNewerThan]
          · rintro _ ⟨⟩
            exact ⟨_, hnumber, rfl⟩
          · rwa [List.append_nil, told, List.flatMap_nil, List.append_nil]
  | asked hcalm huntimed hwrites hleads =>
      exact absurd hadvances (not_advances_of_calm hcalm)
  | ended => cases hadvances

/-- The worker waits for a line, and the session knows or is about to. -/
inductive Asks (begun : Execution σ) (answers : List String) (given : Nat) (content : Content)
    (shown : List Entry) (request : UInt64) (prompt : Option String) :
    Work (Option (Worker σ)) → Prop where
  | intro {worker : Worker σ} {bridge : Bridge} {next : Except HostError String → Execution σ}
      (hcalm : bridge.Calm content given) (huntimed : bridge.timeout = none)
      (hleads : begun.Leads answers shown (.stdin prompt next)) :
      Asks begun answers given content shown request prompt (worker.hearken bridge request next)

/-- The worker waits for a line that the session is about to write, the last of the answers. -/
inductive Awaits (begun : Execution σ) (answers : List String) (given : Nat) (content : Content)
    (shown : List Entry) (request : UInt64) (answer : String) :
    Work (Option (Worker σ)) → Prop where
  | intro {worker : Worker σ} {bridge : Bridge} {next : Except HostError String → Execution σ}
      (hcalm : bridge.Calm content given) (huntimed : bridge.timeout = none)
      (hleads : begun.Leads answers shown (next (.ok answer))) :
      Awaits begun answers given content shown request answer (worker.hearken bridge request next)

variable {request : UInt64} {prompt : Option String} {answer : String}

theorem Asks.heeds (h : Asks begun answers given content shown request prompt ahead) :
    ahead.Heeds content := by
  cases h with
  | intro hcalm huntimed hleads => exact heeds_of_calm hcalm huntimed

theorem Asks.still (h : Asks begun answers given content shown request prompt ahead) :
    ¬ ahead.Advances content events ahead' := by
  cases h with
  | intro hcalm huntimed hleads => exact not_advances_of_calm hcalm

theorem Awaits.heeds (h : Awaits begun answers given content shown request answer ahead) :
    ahead.Heeds content := by
  cases h with
  | intro hcalm huntimed hleads => exact heeds_of_calm hcalm huntimed

theorem Awaits.still (h : Awaits begun answers given content shown request answer ahead) :
    ¬ ahead.Advances content events ahead' := by
  cases h with
  | intro hcalm huntimed hleads => exact not_advances_of_calm hcalm

theorem Asks.cleared (h : Asks begun answers given content shown request prompt ahead) :
    Asks begun answers given .empty shown request prompt ahead := by
  cases h with
  | intro hcalm huntimed hleads => exact .intro hcalm.cleared huntimed hleads

theorem Asks.recite (h : Asks begun answers given content shown request prompt ahead) :
    begun.recite answers =
      ⟨shown ++ Entry.ofText? .output prompt, .asking (Bridge.prompt prompt)⟩ := by
  cases h with
  | intro hcalm huntimed hleads => exact hleads.asking

theorem Asks.answered (h : Asks begun answers given content shown request prompt ahead)
    (answer : String) :
    Awaits begun (answers ++ [answer]) given content
      (shown ++ Entry.ofText? .output prompt ++ [⟨.input, answer⟩]) request answer ahead := by
  cases h with
  | intro hcalm huntimed hleads => exact .intro hcalm huntimed (hleads.answered answer)

theorem Awaits.tells (h : Awaits begun answers given content shown request answer ahead) :
    Tells begun answers (given + 1) (.line request (UInt64.ofNat given) answer) shown ahead [] := by
  cases h with
  | intro hcalm huntimed hleads =>
      exact .answered hcalm.before (Nat.lt_succ_self given) rfl huntimed hleads

/-- What the session hears next: something that the text has written, that it asks for a line, or
that it has ended. -/
theorem Tells.hear {event : Event}
    (h : Tells begun answers given content shown ahead (event :: events)) :
    (event.IsWrite ∧ Tells begun answers given content (shown ++ event.entries) ahead events) ∨
      (events = [] ∧ ∃ request prompt, event = .input request (Bridge.prompt prompt) ∧
        Asks begun answers given content shown request prompt ahead) ∨
      events = [] ∧ ∃ left outcome, event = RunOutcome.event outcome ∧
        ahead = .done (some left) ∧
        begun.recite answers = ⟨shown ++ event.entries, .ended outcome⟩ := by
  have hshown {rest : List Event} :
      shown ++ told (event :: rest) = shown ++ event.entries ++ told rest := by
    rw [told_cons, List.append_assoc]
  generalize hheard : event :: events = heard at h
  cases h with
  | running hcalm huntimed hwrites hleads =>
      subst hheard
      rw [hshown] at hleads
      exact .inl ⟨hwrites event List.mem_cons_self,
        .running hcalm huntimed (List.forall_mem_of_forall_mem_cons hwrites) hleads⟩
  | answered => cases hheard
  | @asked worker bridge request prompt next writes hcalm huntimed hwrites hleads =>
      cases writes with
      | nil =>
          cases hheard
          rw [told, List.flatMap_nil, List.append_nil] at hleads
          exact .inr (.inl ⟨rfl, _, _, rfl, .intro hcalm huntimed hleads⟩)
      | cons write writes =>
          cases hheard
          rw [hshown] at hleads
          exact .inl ⟨hwrites _ List.mem_cons_self,
            .asked hcalm huntimed (List.forall_mem_of_forall_mem_cons hwrites) hleads⟩
  | @ended left ending state writes hwrites hleads =>
      cases writes with
      | nil =>
          cases hheard
          rw [told, List.flatMap_nil, List.append_nil] at hleads
          exact .inr (.inr ⟨rfl, _, _, rfl, rfl, hleads.ended⟩)
      | cons write writes =>
          cases hheard
          rw [hshown] at hleads
          exact .inl ⟨hwrites _ List.mem_cons_self,
            .ended (List.forall_mem_of_forall_mem_cons hwrites) hleads⟩

end Work
end ScriptConsole
