import ScriptConsole.Proofs.Buffer.Shared
import ScriptConsole.Proofs.System.Log
import ScriptConsole.Proofs.Worker.Modes

/-!
What one step of a worker can do. Every worker of a session reads the buffer of the session, also
one that has to open it.
-/

namespace ScriptConsole

variable {σ : Type}

namespace Lane

/-- What a step of a lane can do that finds this content in the buffer: what is noted, and from
which mode to which the worker gets. Only the task of a lane that is to stop changes. -/
inductive Goes (source : BufferSource) (url : String) (content : Except BufferError Content)
    (storage : Storage)
    (worker : Nat) (lane : Lane σ) : Mode → List Note → Mode → Lane σ → Storage → Prop where
  | stopping {mode mode' : Mode} {task : Task σ} (hstopped : lane.stopped = true) :
      Goes source url content storage worker lane mode [] mode' { lane with task } storage
  | fail {mode : Mode} :
      Goes source url content storage worker lane mode [] (.replied none)
        { lane with task := .ended }
        storage
  | settle {mode : Mode} {task : Task σ} :
      Goes source url content storage worker lane mode [] mode { lane with task } storage
  | boot {bridge : Option Bridge} {setup : Setup} {inbox : List Command} {task : Task σ}
      (hinbox : lane.inbox = .init setup :: inbox) :
      Goes source url content storage worker lane (.replied bridge) [] .booting
        { lane with inbox, task }
        storage
  | run {bridge : Option Bridge} {code : String} {inbox : List Command} {task : Task σ}
      (hinbox : lane.inbox = .run code :: inbox) :
      Goes source url content storage worker lane (.replied bridge) [] (.running bridge)
        { lane with inbox, task } storage
  | opened {opened : FileBuffer} {interval : Duration} {files : Files} {task : Task σ}
      (hsource : source = .byUrl)
      (hopen : FileBuffer.ofUrl url storage.files = .ok (opened, files)) :
      Goes source url content storage worker lane .booting [] .booting
        { lane with file := some (opened.withPollInterval interval), task } { storage with files }
  | saidInit {bridge : Option Bridge} {success : Bool} {error : Option String} {task : Task σ}
      (hopen : lane.stopped = false)
      (hfresh : ∀ fresh, bridge = some fresh → fresh.nextRequest = 0 ∧ fresh.lastSequence = none) :
      Goes source url content storage worker lane .booting [.said worker (.init success error)]
        (.replied bridge) { lane with outbox := lane.outbox ++ [.init success error], task } storage
  | saidOut {bridge : Option Bridge} {text : String} {task : Task σ}
      (hopen : lane.stopped = false) :
      Goes source url content storage worker lane (.running bridge) [.said worker (.stdout text)]
        (.running bridge) { lane with outbox := lane.outbox ++ [.stdout text], task } storage
  | saidErr {bridge : Option Bridge} {text : String} {task : Task σ}
      (hopen : lane.stopped = false) :
      Goes source url content storage worker lane (.running bridge) [.said worker (.stderr text)]
        (.running bridge) { lane with outbox := lane.outbox ++ [.stderr text], task } storage
  | asked {bridge : Bridge} {prompt : Option String} {task : Task σ}
      (hopen : lane.stopped = false) :
      Goes source url content storage worker lane (.running bridge)
        [.said worker (.input bridge.nextRequest prompt)]
        (.asking bridge.advance bridge.nextRequest)
        { lane with outbox := lane.outbox ++ [.input bridge.nextRequest prompt], task } storage
  | ran {bridge left : Option Bridge} {success : Bool} {output error : Option String}
      {task : Task σ} (hopen : lane.stopped = false) (hleft : left = none ∨ left = bridge) :
      Goes source url content storage worker lane (.running bridge)
        [.said worker (.run success output error)] (.replied left)
        { lane with outbox := lane.outbox ++ [.run success output error], task } storage
  | answered {bridge : Bridge} {request sequence : UInt64} {text : String} {task : Task σ}
      (hcontent : content = .ok (.line request sequence text))
      (hnewer : (Content.line request sequence text).isNewerThan bridge.lastSequence = true) :
      Goes source url content storage worker lane (.asking bridge request)
        [.ended worker request (.ok text)]
        (.running (some { bridge with lastSequence := some sequence })) { lane with task } storage
  | unanswered {bridge : Bridge} {request : UInt64} {cause : HostError} {task : Task σ} :
      Goes source url content storage worker lane (.asking bridge request)
        [.ended worker request (.error cause)] (.running bridge) { lane with task } storage
  | passedOver {bridge : Bridge} {request other sequence : UInt64} {text : String} {task : Task σ}
      (hcontent : content = .ok (.line other sequence text)) (hother : other ≠ request)
      (hnewer : (Content.line other sequence text).isNewerThan bridge.lastSequence = true) :
      Goes source url content storage worker lane (.asking bridge request) []
        (.asking { bridge with lastSequence := some sequence } request) { lane with task } storage

theorem Goes.notes_cases {source : BufferSource} {url : String}
    {content : Except BufferError Content} {storage storage' : Storage} {worker : Nat}
    {lane lane' : Lane σ} {mode mode' : Mode} {notes : List Note}
    (hgoes : lane.Goes source url content storage worker mode notes mode' lane' storage') :
    notes = [] ∨ (∃ event, notes = [.said worker event]) ∨
      ∃ request result, notes = [.ended worker request result] := by
  cases hgoes <;> simp

end Lane

namespace Bridge.Wait

theorem step_cases (wait : Wait) (now : Nat) (terminated : Bool)
    (content : Except BufferError Content) :
    (∃ sequence text, wait.step now terminated content =
        .ended (.ok text) { wait.bridge with lastSequence := some sequence } ∧
        content = .ok (.line wait.request sequence text) ∧
        (Content.line wait.request sequence text).isNewerThan wait.bridge.lastSequence = true) ∨
      (∃ cause, wait.step now terminated content = .ended (.error cause) wait.bridge) ∨
      (∃ stage, wait.step now terminated content = .waiting { wait with stage }) ∨
      ∃ other sequence text, wait.step now terminated content =
        .waiting { wait with
          bridge := { wait.bridge with lastSequence := some sequence }, stage := .checking } ∧
        content = .ok (.line other sequence text) ∧ other ≠ wait.request ∧
        (Content.line other sequence text).isNewerThan wait.bridge.lastSequence = true := by
  obtain ⟨bridge, request, since, stage⟩ := wait
  cases stage with
  | checking =>
      simp only [step, check]
      split
      · exact .inr (.inl ⟨_, rfl⟩)
      · split
        · exact .inr (.inr (.inl ⟨_, rfl⟩))
        · exact .inr (.inl ⟨_, rfl⟩)
  | reading deadline =>
      cases content with
      | error cause => exact .inr (.inl ⟨_, rfl⟩)
      | ok content =>
          simp only [step, look]
          split
          · rename_i hnewer
            cases content with
            | empty => exact .inr (.inr (.inl ⟨_, rfl⟩))
            | closed => exact .inr (.inl ⟨_, rfl⟩)
            | line other sequence text =>
                by_cases hsame : other = request
                · subst hsame
                  refine .inl ⟨sequence, text, ?_, rfl, hnewer⟩
                  simp only [receive, if_true]
                · refine .inr (.inr (.inr ⟨other, sequence, text, ?_, rfl, hsame, hnewer⟩))
                  simp only [receive, if_neg hsame]
          · split
            · exact .inr (.inr (.inl ⟨_, rfl⟩))
            · exact .inr (.inr (.inl ⟨_, rfl⟩))

end Bridge.Wait

namespace Lane

variable {channel : Channel} {buffer : SharedBuffer} {now : Nat} {storage storage' : Storage}
  {lane lane' : Lane σ} {source : BufferSource} {url : String} {mode : Mode}

/-- If the worker has opened a file, it is the file of the buffer. -/
def Reads (lane : Lane σ) (buffer : SharedBuffer) : Prop :=
  ∀ opened, lane.file = some opened → ∃ file, buffer = .file file ∧ opened.path = file.path

theorem Reads.read_eq (h : lane.Reads buffer) :
    lane.read buffer storage = buffer.read storage := by
  cases hfile : lane.file with
  | none => simp only [read, hfile]
  | some opened =>
      obtain ⟨file, rfl, hpath⟩ := h opened hfile
      simp only [read, hfile, SharedBuffer.read, FileBuffer.read, hpath]

theorem busy_goes (worker : Nat) {work : Work (Except TransportError Unit × Worker σ)}
    {file : Option FileBuffer} {inbox : List Command} {outbox : List Event} {stopped : Bool}
    (hwork : work.Fits source url mode)
    (hstep : step channel buffer now ⟨.busy work, file, inbox, outbox, stopped⟩ storage =
      some (lane', storage')) :
    ∃ mode', lane'.task.Fits source url mode' ∧
      Goes source url (read ⟨.busy work, file, inbox, outbox, stopped⟩ buffer storage) storage
        worker
        ⟨.busy work, file, inbox, outbox, stopped⟩ mode
        (notes ⟨.busy work, file, inbox, outbox, stopped⟩ worker buffer now storage) mode' lane'
        storage' := by
  -- A worker that is to stop is refused what it says, as by a sink that is gone.
  have hpost {event : Event} {next} (hwork : work = .post event next) :
      (stopped = true ∧ lane' = ⟨.busy (next (.error ⟨.disconnected, true⟩)), file, inbox, outbox,
          stopped⟩ ∨
        stopped = false ∧ lane' = ⟨.busy (next (.ok ())), file, inbox, outbox ++ [event],
          stopped⟩) ∧ storage' = storage := by
    subst hwork
    cases stopped with
    | true =>
        cases hstep
        exact ⟨.inl ⟨rfl, rfl⟩, rfl⟩
    | false =>
        simp only [step, postEvent, Bool.false_eq_true, if_false, Channel.carry_event,
          Option.some.injEq, Prod.mk.injEq] at hstep
        obtain ⟨rfl, rfl⟩ := hstep
        exact ⟨.inr ⟨rfl, rfl⟩, rfl⟩
  cases hwork with
  | @done idler result hsource =>
      rcases result with cause | ⟨⟨⟩⟩
      · cases hstep
        exact ⟨_, .ended, .fail⟩
      · cases hstep
        exact ⟨_, .idle hsource, .settle⟩
  | openBuffer hsource hnext =>
      simp only [step] at hstep
      split at hstep
      · cases hstep
        exact ⟨_, .busy (hnext _), .settle⟩
      · rename_i hopen
        cases hstep
        exact ⟨_, .busy (hnext _), .opened hsource hopen⟩
  | await hnext =>
      cases hstep
      exact ⟨_, .waiting hnext, .settle⟩
  | booted hfresh hnext =>
      obtain ⟨⟨rfl, rfl⟩ | ⟨rfl, rfl⟩, rfl⟩ := hpost rfl
      · exact ⟨_, .busy (hnext _), .stopping rfl⟩
      · exact ⟨_, .busy (hnext _), .saidInit rfl hfresh⟩
  | stdout hnext =>
      obtain ⟨⟨rfl, rfl⟩ | ⟨rfl, rfl⟩, rfl⟩ := hpost rfl
      · exact ⟨_, .busy (hnext _), .stopping rfl⟩
      · exact ⟨_, .busy (hnext _), .saidOut rfl⟩
  | stderr hnext =>
      obtain ⟨⟨rfl, rfl⟩ | ⟨rfl, rfl⟩, rfl⟩ := hpost rfl
      · exact ⟨_, .busy (hnext _), .stopping rfl⟩
      · exact ⟨_, .busy (hnext _), .saidErr rfl⟩
  | input htaken hrefused =>
      obtain ⟨⟨rfl, rfl⟩ | ⟨rfl, rfl⟩, rfl⟩ := hpost rfl
      · exact ⟨_, .busy (hrefused _), .stopping rfl⟩
      · exact ⟨_, .busy htaken, .asked rfl⟩
  | ran hleft hnext =>
      obtain ⟨⟨rfl, rfl⟩ | ⟨rfl, rfl⟩, rfl⟩ := hpost rfl
      · exact ⟨_, .busy (hnext _), .stopping rfl⟩
      · exact ⟨_, .busy (hnext _), .ran rfl hleft⟩

theorem waiting_goes (worker : Nat) {wait : Bridge.Wait} {next}
    {file : Option FileBuffer} {inbox : List Command} {outbox : List Event} {stopped : Bool}
    (hnext : ∀ result left, (next result left : Work _).Fits source url (.running (some left)))
    (hstep : step channel buffer now ⟨.waiting wait next, file, inbox, outbox, stopped⟩ storage =
      some (lane', storage')) :
    ∃ mode', lane'.task.Fits source url mode' ∧
      Goes (σ := σ) source url
        (read (σ := σ) ⟨.waiting wait next, file, inbox, outbox, stopped⟩ buffer
          storage) storage worker ⟨.waiting wait next, file, inbox, outbox, stopped⟩
        (.asking wait.bridge wait.request)
        (notes ⟨.waiting wait next, file, inbox, outbox, stopped⟩ worker buffer now storage) mode'
        lane' storage' := by
  simp only [step, notes, lookOn, Option.map_eq_some_iff, Prod.mk.injEq] at hstep ⊢
  obtain ⟨looker, hlook, rfl, rfl⟩ := hstep
  rcases wait.step_cases now stopped (read (σ := σ) ⟨.waiting wait next, file, inbox, outbox,
      stopped⟩ buffer storage) with
    ⟨sequence, text, hwait, hcontent, hnewer⟩ | ⟨cause, hwait⟩ | ⟨stage, hwait⟩ |
      ⟨other, sequence, text, hwait, hcontent, hother, hnewer⟩
  · rw [hwait] at hlook ⊢
    cases hlook
    exact ⟨_, .busy (hnext _ _), .answered hcontent hnewer⟩
  · rw [hwait] at hlook ⊢
    cases hlook
    exact ⟨_, .busy (hnext _ _), .unanswered⟩
  · rw [hwait] at hlook ⊢
    simp only at hlook
    split at hlook
    · cases hlook
    · cases hlook
      exact ⟨_, @Task.Fits.waiting _ _ _ { wait with stage } _ hnext, .settle⟩
  · rw [hwait] at hlook ⊢
    simp only at hlook
    split at hlook
    · cases hlook
    · cases hlook
      have hfits := @Task.Fits.waiting _ source url { wait with
        bridge := { wait.bridge with lastSequence := some sequence }, stage := .checking } _ hnext
      exact ⟨_, hfits, .passedOver hcontent hother hnewer⟩

/-- Every step of a worker that suits a mode is one of these. -/
theorem step_goes (worker : Nat) (hfits : lane.task.Fits source url mode)
    (hinbox : ∀ setup, .init setup ∈ lane.inbox → setup.bufferUrl = url)
    (hstep : lane.step channel buffer now storage = some (lane', storage')) :
    ∃ mode', lane'.task.Fits source url mode' ∧
      lane.Goes source url (lane.read buffer storage) storage worker mode
        (lane.notes worker buffer now storage) mode' lane' storage' := by
  obtain ⟨task, file, inbox, outbox, stopped⟩ := lane
  cases hfits with
  | ended => cases hstep
  | @idle idler hsource =>
      simp only [step, takeCommand, Option.map_eq_some_iff, Prod.mk.injEq] at hstep
      obtain ⟨taker, htake, rfl, rfl⟩ := hstep
      cases stopped with
      | true =>
          cases htake
          exact ⟨_, .ended, .stopping rfl⟩
      | false =>
          cases inbox with
          | nil => cases htake
          | cons command inbox =>
              cases htake
              cases command with
              | init setup =>
                  refine ⟨.booting, ?_, .boot rfl⟩
                  rw [idler.handle_eq]
                  exact .busy (Worker.boot_fits hsource (hinbox setup List.mem_cons_self))
              | run code =>
                  refine ⟨.running _, ?_, .run rfl⟩
                  rw [idler.handle_eq]
                  exact .busy (Worker.runCode_fits hsource code)
  | busy hwork => exact busy_goes worker hwork hstep
  | @waiting wait next hnext => exact waiting_goes worker hnext hstep

end Lane
end ScriptConsole
