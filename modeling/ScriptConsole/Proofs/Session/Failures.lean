import ScriptConsole.Proofs.Session.Monitor
import ScriptConsole.Proofs.Session.Settled

/-!
What a call that fails leaves behind. Where the worker was lost the session has let go of it
altogether; where a run was in the way nothing has happened; and a line that came too late was
neither written nor recorded.
-/

namespace ScriptConsole

/-- A line of input was written, or a worker was told something; or it was tried. -/
def Note.Commits : Note → Prop
  | .did (.wrote (.line _ _ _) _) | .did (.posted _ _ _) => True
  | _ => False

namespace Transcript

theorem texts_print {kind shown : EntryKind} (hother : kind ≠ shown) (t : Transcript)
    (text : String) : (t.print kind text).texts shown = t.texts shown := by
  have hentries : (t.print kind text).entries = t.entries ++ [⟨kind, text⟩] := by
    rw [entries, print, List.foldl_append]
    rfl
  have hnone : [Entry.mk kind text].filter (·.kind == shown) = [] :=
    List.filter_cons_of_neg (by simpa using hother)
  rw [texts, texts, hentries, List.filter_append, hnone, List.append_nil]

end Transcript

namespace Session

variable {start session : Session} {log : List Note}

/-- An open request is one that the next line answers. -/
def AwaitsOpen (session : Session) : Prop :=
  session.request ≠ none → session.isAwaitingInput = true

/-- Since the call a line was neither written nor recorded, and no worker was told anything. -/
structure Spared (start : Session) (log : List Note) (session : Session) : Prop where
  notes : ∀ note ∈ log, ¬ note.Commits
  history : session.history = start.history
  lines : session.statements.lines = start.statements.lines
  echoes : session.transcript.texts .input = start.transcript.texts .input

/-- This is how a session may be left by a call that fails, given what was noted since the call. -/
def Excuses (start : Session) (log : List Note) (session : Session) : SessionError → Prop
  | .boot _ | .initTimeout _ | .transport _ => session.live = none ∨ session.phase ≠ .ready
  | .runInFlight | .source _ _ => log = [] ∧ session = start
  | .notAwaitingInput => start.Spared log session
  | .buffer _ => True

/-- The same of a call that has not returned yet. -/
def Fair (start : Session) (log : List Note) : Turn × Session → Prop
  | (.reply (.ok _), _) => True
  | (.reply (.error error), session) => start.Excuses log session error
  | (.listen (.poll .reply), _) => True
  | (.listen (.poll _), session) => start.Spared log session ∧ session.AwaitsOpen
  | (.listen (.boot _), _) | (.listen (.wait _), _) => True

/-- A monitor of a call that keeps all notes. -/
def fairness (start : Session) : Monitor (List Note) where
  note log note := log ++ [note]
  May _ _ := True
  Stands log stand := start.Fair log stand

theorem fairness_notes (start : Session) (log notes : List Note) :
    notes.foldl start.fairness.note log = log ++ notes := by
  induction notes generalizing log with
  | nil => exact (List.append_nil log).symm
  | cons note notes ih =>
      rw [List.foldl_cons, ih]
      exact List.append_assoc log [note] notes

/-! ### What is spared -/

theorem spared_refl (session : Session) : session.Spared [] session :=
  ⟨List.forall_mem_nil _, rfl, rfl, rfl⟩

theorem Spared.note (h : start.Spared log session) {note : Note} (hnote : ¬ note.Commits) :
    start.Spared (log ++ [note]) session := by
  refine ⟨?_, h.history, h.lines, h.echoes⟩
  rw [List.forall_mem_append]
  exact ⟨h.notes, List.forall_mem_singleton.mpr hnote⟩

theorem Spared.alike (h : start.Spared log session) {other : Session}
    (hhistory : other.history = session.history)
    (hlines : other.statements.lines = session.statements.lines)
    (htranscript : other.transcript = session.transcript) : start.Spared log other :=
  ⟨h.notes, hhistory.trans h.history, hlines.trans h.lines,
    (congrArg (·.texts .input) htranscript).trans h.echoes⟩

theorem Spared.print (h : start.Spared log session) {kind : EntryKind} (hother : kind ≠ .input)
    (text : String) : start.Spared log (session.print kind text) :=
  ⟨h.notes, h.history, h.lines, (Transcript.texts_print hother _ text).trans h.echoes⟩

theorem Spared.printSome (h : start.Spared log session) {kind : EntryKind}
    (hother : kind ≠ .input) (text : Option String) :
    start.Spared log (session.printSome kind text) := by
  cases text with
  | none => exact h
  | some text =>
      rw [Session.printSome]
      split
      · exact h
      · exact h.print hother text

theorem Spared.abandon (h : start.Spared log session) (reason : Pending → TransportError) :
    start.Spared log (session.abandon reason) := by
  rw [Session.abandon]
  split <;> exact h.alike rfl rfl rfl

theorem Spared.takeRun (h : start.Spared log session) (success : Bool)
    (output error : Option String) : start.Spared log (session.takeRun success output error) := by
  have hclosed : start.Spared log { session.closeRequest with pending := none } :=
    h.alike rfl rfl rfl
  rw [Session.takeRun]
  split
  · split
    · exact (hclosed.printSome (by rintro ⟨⟩) output).alike rfl rfl rfl
    · exact (hclosed.print (by rintro ⟨⟩) _).alike rfl rfl rfl
  · exact h

theorem Spared.openRequest (h : start.Spared log session) (request : UInt64)
    (prompt : Option String) : start.Spared log (session.openRequest request prompt) := by
  have hshown : start.Spared log (session.printSome .output prompt) :=
    h.printSome (by rintro ⟨⟩) prompt
  obtain ⟨transcript, hprint⟩ := session.exists_printSome .output prompt
  rw [hprint] at hshown
  rw [Session.openRequest, hprint]
  exact hshown.alike rfl rfl rfl

/-! ### Moves that tell nothing of the call -/

theorem abandon_request (session : Session) (reason : Pending → TransportError) :
    (session.abandon reason).request = none := by
  rw [abandon]
  split <;> rfl

theorem abandon_live (session : Session) (reason : Pending → TransportError) :
    (session.abandon reason).live = none := by
  rw [abandon]
  split <;> rfl

theorem letGo_fair {reason : Pending → TransportError} {next : Session → Move}
    (hnext : ∀ log, (next (session.abandon reason)).Passes start.fairness log) :
    Move.Passes start.fairness (session.letGo reason >>= next) log :=
  letGo_passes (fun _ => hnext log) fun _ _ => ⟨trivial, hnext _⟩

theorem giveUp_fair (session : Session) (log : List Note) (reason : Pending → TransportError)
    {error : SessionError} (herror : ∀ log session, session.live = none →
      start.Excuses log session error) :
    Move.Passes start.fairness (do (← session.letGo reason).fail error) log :=
  letGo_fair fun log => herror log _ (session.abandon_live reason)

theorem listen_fair {goal : Listening}
    (hgoal : session.live ≠ none → start.Fair log (.listen goal, session)) :
    (session.listen goal).Passes start.fairness log := by
  rw [Session.listen]
  cases hlive : session.live with
  | none => exact .inl hlive
  | some worker => exact hgoal (by rw [hlive]; rintro ⟨⟩)

theorem postRun_fair (session : Session) (code : String) (result : Reply) :
    (session.postRun code result).Passes start.fairness log := by
  cases hlive : session.live with
  | none =>
      rw [postRun, hlive]
      exact .inl hlive
  | some worker =>
      rw [postRun_of_live hlive]
      rintro (cause | ⟨⟨⟩⟩)
      · exact ⟨trivial, giveUp_fair session _ _ fun _ _ hnone => .inl hnone⟩
      · exact ⟨trivial, trivial⟩

theorem awaitBoot_fair (session : Session) (next : AfterBoot) :
    (session.awaitBoot next).Passes start.fairness log := by
  rw [awaitBoot]
  split
  · exact listen_fair fun _ => trivial
  · split
    · cases next with
      | reply => trivial
      | run code result => exact postRun_fair session code result
    · next hphase => exact .inr hphase

theorem launch_fair (session : Session) (next : AfterBoot) :
    (session.launch next).Passes start.fairness log := by
  have hlive : ((session.abandon .terminated).printRejection session.pending).live = none := by
    cases session.pending <;> exact session.abandon_live .terminated
  refine letGo_fair fun log => ?_
  rintro (cause | ⟨⟨⟩⟩)
  · exact ⟨trivial, trivial⟩
  · refine ⟨trivial, ?_⟩
    rintro (cause | ⟨⟨⟩⟩)
    · exact ⟨trivial, .inl hlive⟩
    · refine ⟨trivial, ?_⟩
      rintro (cause | ⟨⟨⟩⟩)
      · exact ⟨trivial, trivial, .inl hlive⟩
      · exact ⟨trivial, awaitBoot_fair _ next⟩

theorem submit_fair (session : Session) (hidle : session.isRunPending = false) (code : String)
    (result : Reply) : (session.submit code result).Passes start.fairness log := by
  rw [submit, hidle]
  split
  · next hpending => cases hpending
  · split
    · exact postRun_fair session code result
    · exact launch_fair session _

/-! ### Typed lines -/

theorem writeInput_fair (session : Session) (hopen : session.request ≠ none) (text : String)
    (result : Reply) : (session.writeInput text result).Passes start.fairness log := by
  obtain ⟨request, hrequest⟩ := Option.ne_none_iff_exists'.mp hopen
  rw [writeInput, hrequest]
  rintro (cause | ⟨⟨⟩⟩)
  · exact ⟨trivial, trivial⟩
  · exact ⟨trivial, trivial⟩

theorem takeLine_fair (session : Session) (text : String)
    (hopen : session.isAwaitingInput = true → session.request ≠ none)
    (hidle : session.isAwaitingInput = false → session.isRunPending = false) :
    (session.takeLine text).Passes start.fairness log := by
  rw [takeLine]
  cases hawaiting : session.isAwaitingInput with
  | true =>
      have hpush : session.statements.push text =
          (.input (String.ofList (Text.dropLineEnd text.toList)), .empty) := by
        rw [StatementBuffer.push]
        exact if_pos hawaiting
      rw [hpush]
      refine writeInput_fair _ ?_ _ _
      exact hopen hawaiting
  | false =>
      have hnone := push_of_not_awaiting hawaiting text
      generalize session.statements.push text = pushed at hnone ⊢
      obtain ⟨outcome, statements⟩ := pushed
      cases outcome with
      | statement source =>
          refine submit_fair _ ?_ source _
          exact hidle hawaiting
      | input line => exact absurd rfl (hnone line)
      | ignored => trivial
      | incomplete => trivial

theorem isOpen_request {request : Option UInt64} (hopen : session.isOpen request = true) :
    session.request ≠ none := by
  rw [isOpen, Bool.and_eq_true, beq_iff_eq] at hopen
  rw [hopen.2]
  exact Option.isSome_iff_ne_none.mp hopen.1

theorem afterPoll_fair {next : AfterPoll} (h : start.Fair log (.listen (.poll next), session)) :
    (session.afterPoll next).Passes start.fairness log := by
  cases next with
  | reply => trivial
  | line request text =>
      obtain ⟨hspared, hawaiting⟩ := h
      rw [afterPoll]
      split
      · next hopen =>
        have hrequest := isOpen_request hopen
        refine takeLine_fair session text (fun _ => hrequest) fun hnot => ?_
        rw [hawaiting hrequest] at hnot
        cases hnot
      · exact hspared
  | deliver request text =>
      rw [afterPoll]
      split
      · next hopen =>
        refine writeInput_fair _ ?_ text _
        exact isOpen_request hopen
      · exact h.1

theorem awaitSilence_fair {next : AfterPoll} (h : start.Fair log (.listen (.poll next), session)) :
    (session.awaitSilence next).Passes start.fairness log := by
  rw [awaitSilence]
  split
  · exact afterPoll_fair h
  · exact listen_fair fun _ => h

theorem awaitQuiet_fair (session : Session) (limit : Option Duration) :
    (session.awaitQuiet limit).Passes start.fairness log := by
  rw [awaitQuiet]
  split
  · trivial
  · split
    · trivial
    · exact listen_fair fun _ => trivial

/-! ### Calls and what is heard meanwhile -/

theorem call_fair (session : Session) (call : Call) :
    (session.call call).Passes session.fairness [] := by
  cases call with
  | start => exact launch_fair session _
  | submit code =>
      rw [Session.call]
      cases hpending : session.isRunPending with
      | true =>
          rw [submit, hpending]
          exact ⟨rfl, rfl⟩
      | false => exact submit_fair session hpending code _
  | line text =>
      rw [Session.call, line]
      split
      · next hawaiting => exact awaitSilence_fair ⟨spared_refl session, fun _ => hawaiting⟩
      · next hnot =>
        split
        · exact ⟨rfl, rfl⟩
        · next hidle =>
          refine takeLine_fair session text (fun hyes => absurd hyes hnot) fun _ => ?_
          exact Bool.eq_false_iff.mpr hidle
  | deliver text =>
      rw [Session.call, deliver]
      split
      · next hawaiting => exact awaitSilence_fair ⟨spared_refl session, fun _ => hawaiting⟩
      · exact spared_refl session
  | poll => exact awaitSilence_fair trivial
  | wait limit => exact awaitQuiet_fair session limit
  | runSource name text =>
      cases text with
      | error cause => exact ⟨rfl, rfl⟩
      | ok code => exact launch_fair _ _
  | teardown =>
      refine letGo_fair fun log => ?_
      exact fun _ => ⟨trivial, trivial⟩

theorem takeRun_pending (hpending : session.isRunPending = true) (success : Bool)
    (output error : Option String) : ∃ transcript lastRun,
      session.takeRun success output error =
        { session.closeRequest with pending := none, transcript, lastRun } := by
  rw [takeRun, if_pos hpending]
  cases success with
  | true =>
      obtain ⟨transcript, hprint⟩ :=
        ({ session.closeRequest with pending := none } : Session).exists_printSome .output output
      exact ⟨transcript, some (.completed output),
        congrArg (fun ended => { ended with lastRun := some (.completed output) }) hprint⟩
  | false => exact ⟨_, _, rfl⟩

theorem takeRun_idle (hidle : session.isRunPending = false) (success : Bool)
    (output error : Option String) : session.takeRun success output error = session := by
  rw [takeRun, hidle]
  rfl

theorem takeRun_awaiting (hawaiting : session.AwaitsOpen)
    (success : Bool) (output error : Option String) :
    (session.takeRun success output error).AwaitsOpen := by
  cases hpending : session.isRunPending with
  | true =>
      obtain ⟨transcript, lastRun, htaken⟩ := takeRun_pending hpending success output error
      rw [htaken]
      exact fun hopen => absurd rfl hopen
  | false =>
      rw [takeRun_idle hpending]
      exact hawaiting

theorem Spared.take (h : start.Spared log session)
    (hawaiting : session.AwaitsOpen) (event : Event)
    {next : Session → Move}
    (hnext : ∀ (log : List Note) (session : Session), start.Spared log session →
      session.AwaitsOpen → (next session).Passes start.fairness log) :
    Move.Passes start.fairness (session.take event >>= next) log := by
  cases event with
  | init success error =>
      rw [Session.take, takeBoot]
      split
      · split
        · exact hnext log _ (h.alike rfl rfl rfl) hawaiting
        · let failed : Session :=
            { session with pending := none, bootError := some (error.getD unknownError) }
          have hleft : start.Spared log (failed.abandon .terminated) :=
            (h.alike rfl rfl rfl : start.Spared log failed).abandon .terminated
          have hclosed : (failed.abandon .terminated).AwaitsOpen :=
            fun hopen => absurd (failed.abandon_request .terminated) hopen
          exact letGo_passes (fun _ => hnext _ _ hleft hclosed)
            fun _ _ => ⟨trivial, hnext _ _ (hleft.note id) hclosed⟩
      · exact hnext log _ h hawaiting
  | run success output error =>
      exact hnext log _ (h.takeRun success output error)
        (takeRun_awaiting hawaiting success output error)
  | stdout text => exact hnext log _ (h.print (by rintro ⟨⟩) text) hawaiting
  | stderr text => exact hnext log _ (h.print (by rintro ⟨⟩) text) hawaiting
  | input request prompt =>
      intro answer
      exact ⟨trivial, hnext _ _ ((h.openRequest request prompt).note id) fun _ => rfl⟩

theorem take_fair (session : Session) (event : Event) {next : Session → Move}
    (hnext : ∀ (log : List Note) (session : Session), (next session).Passes start.fairness log) :
    Move.Passes start.fairness (session.take event >>= next) log := by
  cases event with
  | init success error =>
      rw [Session.take, takeBoot]
      split
      · split
        · exact hnext log _
        · exact letGo_fair fun log => hnext log _
      · exact hnext log _
  | run success output error => exact hnext log _
  | stdout text => exact hnext log _
  | stderr text => exact hnext log _
  | input request prompt => exact fun _ => ⟨trivial, hnext _ _⟩

theorem hear_fair {goal : Listening} (h : start.Fair log (.listen goal, session)) (worker : Nat)
    (heard : Heard) :
    (session.hear goal heard).Passes start.fairness (log ++ [.heard worker heard]) := by
  have hpoll {next : AfterPoll} (h : start.Fair log (.listen (.poll next), session)) :
      start.Fair (log ++ [.heard worker heard]) (.listen (.poll next), session) := by
    cases next with
    | reply => trivial
    | line request text => exact ⟨h.1.note id, h.2⟩
    | deliver request text => exact ⟨h.1.note id, h.2⟩
  cases heard with
  | event event =>
      cases goal with
      | boot next => exact take_fair session event fun _ session => awaitBoot_fair session next
      | wait limit => exact take_fair session event fun _ session => awaitQuiet_fair session limit
      | poll next =>
          cases next with
          | reply => exact take_fair session event fun _ _ => awaitSilence_fair trivial
          | line request text =>
              exact (hpoll h).1.take h.2 event fun _ _ hspared hawaiting =>
                awaitSilence_fair ⟨hspared, hawaiting⟩
          | deliver request text =>
              exact (hpoll h).1.take h.2 event fun _ _ hspared hawaiting =>
                awaitSilence_fair ⟨hspared, hawaiting⟩
  | quiet =>
      cases goal with
      | boot next => exact giveUp_fair session _ _ fun _ _ hnone => .inl hnone
      | wait limit => trivial
      | poll next => exact afterPoll_fair (hpoll h)
  | gone => exact giveUp_fair session _ _ fun _ _ hnone => .inl hnone

/-! ### What failures leave -/

theorem Settled.dead (h : session.Settled) (hlost : session.live = none ∨ session.phase ≠ .ready) :
    session.phase = .uninitialized ∧ session.live = none ∧ session.pending = none ∧
      session.isAwaitingInput = false := by
  have hunready : session.phase ≠ .ready := by
    rcases hlost with hnone | hunready
    · exact fun hready => absurd hnone (h.ready.mp hready)
    · exact hunready
  have hlive : session.live = none := by
    cases hlive : session.live with
    | none => rfl
    | some worker => exact absurd (h.ready.mpr (by rw [hlive]; rintro ⟨⟩)) hunready
  refine ⟨?_, hlive, ?_, ?_⟩
  · cases hphase : session.phase with
    | uninitialized => rfl
    | initializing => exact absurd hphase h.booted.1
    | ready => exact absurd hphase hunready
  · cases hpending : session.pending with
    | none => rfl
    | some pending =>
        cases pending with
        | init => exact absurd hpending h.booted.2
        | run => exact absurd (h.run hpending) hunready
  · rw [← Bool.not_eq_true]
    exact fun hawaiting => h.request (h.awaiting hawaiting) hlive

variable {config : Config} {url : String}

/-- A call that fails leaves a clean session. One that fails for its worker leaves a session without
a worker, without anything pending and without a request for input; one that fails since a run goes
on, or since there is nothing to run, has done nothing; and one that fails since no line was
waited for has neither written a line nor told a worker anything, and it leaves the history, the
lines of the statement and the echoes as they were. -/
theorem failures_leave_clean {session last : Session} {notes : List Note} {error : SessionError}
    (h : Course config url log (.resting session)) (call : Call)
    (hreturns : (session.call call).Returns notes (.error error) last) :
    ((∃ reason, error = .boot reason) ∨ (∃ limit, error = .initTimeout limit) ∨
        (∃ cause, error = .transport cause) →
      last.phase = .uninitialized ∧ last.live = none ∧ last.pending = none ∧
        last.isAwaitingInput = false) ∧
    (error = .runInFlight ∨ (∃ name cause, error = .source name cause) →
      notes = [] ∧ last = session) ∧
    (error = .notAwaitingInput →
      (∀ note ∈ notes, ¬ note.Commits) ∧ last.history = session.history ∧
        last.statements.lines = session.statements.lines ∧
        last.transcript.texts .input = session.transcript.texts .input) := by
  have hexcused : session.Excuses notes last error := by
    have hfair := hreturns.passes (m := session.fairness) (r := [])
      (fun _ _ _ worker heard hstands _ => hear_fair hstands worker heard) (call_fair session call)
    rw [fairness_notes, List.nil_append] at hfair
    exact hfair
  have hsettled : last.Settled := by
    obtain ⟨log, hlast⟩ := (h.step (.call session call)).returns hreturns
    obtain ⟨r, ⟨-, hsettled⟩, -⟩ := hlast.settles
    exact hsettled
  refine ⟨?_, ?_, ?_⟩
  · rintro (⟨reason, rfl⟩ | ⟨limit, rfl⟩ | ⟨cause, rfl⟩) <;> exact hsettled.dead hexcused
  · rintro (rfl | ⟨name, cause, rfl⟩) <;> exact hexcused
  · rintro rfl
    exact ⟨hexcused.notes, hexcused.history, hexcused.lines, hexcused.echoes⟩

/-- No worker can be spawned; a program cannot be read; and a line comes after the script that
asked for it has ended. -/
theorem failures_leave_clean_of_each_kind :
    (∃ last, ((new .default "memory://0").call .start).Returns
        [.did (.wrote .empty (.ok ())), .did (.spawned (.error .disconnected))]
        (.error (.transport .disconnected)) last ∧ last.phase = .uninitialized) ∧
    (∃ notes last, ((new .default "memory://0").call (.runSource "main" (.error .notFound))).Returns
        notes (.error (.source "main" .notFound)) last ∧ notes = []) ∧
    ∃ log session notes last, Course .default "memory://0" log (.resting session) ∧
      session.isAwaitingInput = true ∧
      (session.call (.line "late")).Returns notes (.error .notAwaitingInput) last ∧
      (∀ note ∈ notes, ¬ note.Commits) ∧ last.history = session.history := by
  refine ⟨?_, ?_, ?_⟩
  · have hreturns : ((new .default "memory://0").call .start).Returns
        [.did (.wrote .empty (.ok ())), .did (.spawned (.error .disconnected))]
        (.error (.transport .disconnected)) _ :=
      .deed (.write (.ok ())) (.deed (.spawn (.error .disconnected)) (.reply _ _))
    exact ⟨_, hreturns, ((failures_leave_clean .new .start hreturns).1 (.inr (.inr ⟨_, rfl⟩))).1⟩
  · have hreturns :
        ((new .default "memory://0").call (.runSource "main" (.error .notFound))).Returns
        [] (.error (.source "main" .notFound)) _ := .reply _ _
    exact ⟨_, _, hreturns, ((failures_leave_clean .new _ hreturns).2.1 (.inr ⟨_, _, rfl⟩)).1⟩
  · have submitted := course_started.step (.call _ (.submit "input()"))
    have running := submitted.step (.deed (.post (.ok ())))
    have waiting := running.step (.call _ (.wait none))
    have asked := waiting.step (.hear rfl (.event (.input 0 none)))
    have reset := asked.step (.deed (.write (.ok ())))
    obtain ⟨log, session, hcourse, hawaiting, notes, last, hreturns⟩ : ∃ log session,
        Course .default "memory://0" log (.resting session) ∧ session.isAwaitingInput = true ∧
          ∃ notes last,
            (session.call (.line "late")).Returns notes (.error .notAwaitingInput) last :=
      ⟨_, _, reset, rfl, _, _,
        .hear rfl (.event (.runOk none)) (.hear rfl .quiet (.reply _ _))⟩
    obtain ⟨hnotes, hhistory, -⟩ := (failures_leave_clean hcourse _ hreturns).2.2 rfl
    exact ⟨log, session, notes, last, hcourse, hawaiting, hreturns, hnotes, hhistory⟩

end Session
end ScriptConsole
