import ScriptConsole.Proofs.Session.Reference
import ScriptConsole.Session.Call

/-!
What a session does at each turn, as long as its worker is well: it shows what it hears, it asks
the user for the lines that a text asks for, and it waits until the text has ended.
-/

namespace ScriptConsole

variable {σ : Type}

/-- A text runs on after the reply. -/
def Reply.isUnfinished : Reply → Bool
  | .line (.statement _) | .line (.input _) => true
  | _ => false

namespace Transcript

theorem view_print (before shown : List Entry) :
    (shown.map Mark.print).foldl view before = before ++ shown := by
  induction shown generalizing before with
  | nil => exact (List.append_nil before).symm
  | cons entry shown ih =>
      rw [List.map_cons, List.foldl_cons, ih, view, List.append_assoc, List.singleton_append]

theorem entries_of_marks {transcript transcript' : Transcript} {shown : List Entry}
    (h : transcript'.marks = transcript.marks ++ shown.map .print) :
    transcript'.entries = transcript.entries ++ shown := by
  rw [entries, h, List.foldl_append, view_print, entries]

end Transcript

namespace Session
variable {session : Session} {shown : List Entry} {worker : Nat}

theorem exists_printSome (session : Session) (kind : EntryKind) (text : Option String) :
    ∃ transcript, session.printSome kind text = { session with transcript } := by
  cases text with
  | none => exact ⟨_, rfl⟩
  | some text =>
      rw [Session.printSome]
      split
      · exact ⟨_, rfl⟩
      · exact ⟨_, rfl⟩

theorem marks_printSome (session : Session) (kind : EntryKind) (text : Option String) :
    (session.printSome kind text).transcript.marks =
      session.transcript.marks ++ (Entry.ofText? kind text).map .print := by
  cases text with
  | none => exact (List.append_nil _).symm
  | some text =>
      rw [Session.printSome, Entry.ofText?]
      split
      · exact (List.append_nil _).symm
      · rfl

/-! ### What a session does that waits -/

theorem awaitQuiet_of_running (hpending : session.pending = some .run)
    (hstatements : session.statements = .empty) (hlive : session.live = some worker)
    (limit : Option Duration) :
    session.awaitQuiet limit = .done (.listen (.wait limit), session) := by
  simp only [awaitQuiet, isAwaitingInput, hstatements, StatementBuffer.empty, hpending, listen,
    hlive, Bool.and_false, Bool.false_eq_true, if_false, reduceCtorEq]
  rfl

theorem awaitQuiet_of_done (hpending : session.pending = none)
    (hstatements : session.statements = .empty) (limit : Option Duration) :
    session.awaitQuiet limit = session.reply (.waited .idle) := by
  simp only [awaitQuiet, isAwaitingInput, hstatements, StatementBuffer.empty, hpending,
    Bool.and_false, Bool.false_eq_true, if_false, if_true]

theorem take_write (session : Session) {event : Event} (hwrite : event.IsWrite) :
    ∃ kind text, event.entries = [⟨kind, text⟩] ∧
      session.take event = .done (session.print kind text) := by
  cases event with
  | stdout text => exact ⟨.output, text, rfl, rfl⟩
  | stderr text => exact ⟨.error, text, rfl, rfl⟩
  | init => exact hwrite.elim
  | run => exact hwrite.elim
  | input => exact hwrite.elim

theorem hear_input {request : UInt64} {prompt : Option String} {limit : Option Duration} :
    session.hear (.wait limit) (.event (.input request prompt)) =
      .write .empty fun _ => (session.openRequest request prompt).awaitQuiet limit := rfl

theorem take_run (hpending : session.pending = some .run) (outcome : RunOutcome) :
    ∃ transcript, session.take outcome.event = .done { session.closeRequest with
        pending := none
        lastRun := some outcome
        transcript } ∧
      transcript.marks = session.transcript.marks ++ outcome.event.entries.map .print := by
  have hrun : session.isRunPending = true := by
    rw [isRunPending, hpending]
    rfl
  cases outcome with
  | completed output =>
      refine ⟨(({ session.closeRequest with pending := none } : Session).printSome .output
        output).transcript, ?_, marks_printSome _ .output output⟩
      obtain ⟨transcript, hprint⟩ :=
        ({ session.closeRequest with pending := none } : Session).exists_printSome .output output
      show Deed.done (session.takeRun true output none) = _
      simp only [takeRun, hrun, if_true, hprint]
  | failed error =>
      refine ⟨session.transcript.print .error error, ?_, rfl⟩
      show Deed.done (session.takeRun false none (some error)) = _
      simp only [takeRun, hrun, if_true, Bool.false_eq_true, if_false, Option.getD_some]
      rfl

/-! ### What a session shows -/

/-- What the session has shown since it began. -/
def Shows (session : Session) (shown : List Entry) : Prop :=
  session.transcript.marks = shown.map .print

theorem Shows.print (h : session.Shows shown) (kind : EntryKind) (text : String) :
    (session.print kind text).Shows (shown ++ [⟨kind, text⟩]) := by
  rw [Shows, List.map_append, ← h]
  rfl

theorem Shows.printSome (h : session.Shows shown) (kind : EntryKind) (text : Option String) :
    (session.printSome kind text).Shows (shown ++ Entry.ofText? kind text) := by
  rw [Shows, marks_printSome, h, List.map_append]

theorem Shows.entries (h : session.Shows shown) : session.transcript.entries = shown := by
  rw [Transcript.entries, h, Transcript.view_print, List.nil_append]

/-- What a session is at once the worker has booted. -/
structure Sits (session : Session) (answers : Nat) (shown : List Entry) : Prop where
  live : session.live = some 0
  phase : session.phase = .ready
  sequence : session.sequence = UInt64.ofNat answers
  shows : session.Shows shown

/-- A text runs that has not asked for a line. -/
structure IsBusy (session : Session) : Prop where
  pending : session.pending = some .run
  statements : session.statements = .empty

theorem IsBusy.awaitQuiet (h : session.IsBusy) (hlive : session.live = some worker)
    (limit : Option Duration) :
    session.awaitQuiet limit = .done (.listen (.wait limit), session) :=
  awaitQuiet_of_running h.pending h.statements hlive limit

theorem Sits.hear_write {n : Nat} {event : Event} (h : session.Sits n shown)
    (hbusy : session.IsBusy) (hwrite : event.IsWrite) :
    ∃ session', session.hear (.wait none) (.event event) = .done (.listen (.wait none), session') ∧
      session'.Sits n (shown ++ event.entries) ∧ session'.IsBusy := by
  obtain ⟨kind, text, hentries, htake⟩ := session.take_write hwrite
  have hbusy' : (session.print kind text).IsBusy := ⟨hbusy.pending, hbusy.statements⟩
  refine ⟨session.print kind text, ?_, ?_, hbusy'⟩
  · rw [hear, htake]
    exact hbusy'.awaitQuiet h.live none
  · rw [hentries]
    exact { h with shows := h.shows.print kind text }

/-- A text has asked for a line, and the user knows. -/
structure HasAsked (session : Session) (request : UInt64) : Prop where
  pending : session.pending = some .run
  statements : session.statements = ⟨[], true⟩
  request : session.request = some request

theorem Sits.openRequest {n : Nat} (h : session.Sits n shown) (hbusy : session.IsBusy)
    (request : UInt64) (prompt : Option String) :
    ∃ session' : Session, (session.openRequest request prompt).awaitQuiet none =
        session'.reply (.waited (.awaitingInput prompt)) ∧
      session'.Sits n (shown ++ Entry.ofText? .output prompt) ∧ session'.HasAsked request := by
  have hshows := h.shows.printSome .output prompt
  obtain ⟨transcript, hprint⟩ := session.exists_printSome .output prompt
  rw [hprint] at hshows
  rw [Session.openRequest, hprint, hbusy.statements]
  exact ⟨_, rfl, { h with shows := hshows }, hbusy.pending, rfl, rfl⟩

theorem Sits.hear_run {n : Nat} (h : session.Sits n shown) (hbusy : session.IsBusy)
    (outcome : RunOutcome) :
    ∃ session' : Session, session.hear (.wait none) (.event outcome.event) =
        session'.reply (.waited .idle) ∧
      session'.Sits n (shown ++ outcome.event.entries) ∧ session'.pending = none ∧
      session'.statements = .empty ∧ session'.lastRun = some outcome := by
  obtain ⟨transcript, htake, hmarks⟩ := take_run hbusy.pending outcome
  have hempty : session.statements.setAwaitingInput false = .empty := by
    rw [hbusy.statements]
    rfl
  have hshows : transcript.marks = (shown ++ outcome.event.entries).map .print := by
    rw [hmarks, h.shows, List.map_append]
  refine ⟨{ session.closeRequest with
      pending := none
      lastRun := some outcome
      transcript }, ?_, { h with shows := hshows }, rfl, hempty, rfl⟩
  rw [hear, htake]
  exact awaitQuiet_of_done rfl hempty none

/-! ### Statements -/

/-- What the user types is a part of a statement. -/
structure IsTyping (session : Session) (r : Reference σ) : Prop where
  statements : session.statements = r.statements
  typing : r.statements.awaitingInput = false
  lastRun : session.lastRun = r.outcomes.getLast?

/-- The worker of the session has not been spawned yet. -/
structure IsFresh (session : Session) (config : Config) (url : String) (shown : List Entry) :
    Prop where
  config : session.config = config
  bufferUrl : session.bufferUrl = url
  live : session.live = none
  spawned : session.spawned = 0
  phase : session.phase = .uninitialized
  sequence : session.sequence = 0
  shows : session.Shows shown

/-- The worker of the session is to boot. -/
structure IsBooting (session : Session) (config : Config) (shown : List Entry) : Prop where
  config : session.config = config
  live : session.live = some 0
  phase : session.phase = .initializing
  pending : session.pending = some .init
  sequence : session.sequence = 0
  shows : session.Shows shown

variable {config : Config} {url : String} {r : Reference σ} {after : AfterBoot}

theorem IsFresh.launch (h : session.IsFresh config url shown) (hpending : session.pending = none)
    (hstatements : session.statements.awaitingInput = false) (after : AfterBoot) :
    ∃ (next : Except BufferError Unit → Move) (session' : Session),
      session.launch after = .write .empty next ∧
      next (.ok ()) = session'.spawn after ∧ session'.IsFresh config url shown ∧
      session'.pending = none ∧ session'.statements = session.statements ∧
      session'.lastRun = session.lastRun := by
  obtain ⟨config, url, phase, live, spawned, pending, bootError, lastRun, prompt, request, announce,
    sequence, ⟨lines, awaiting⟩, history, transcript⟩ := session
  obtain ⟨rfl, rfl, rfl, rfl, rfl, rfl, hshows⟩ := h
  cases hpending
  cases hstatements
  exact ⟨_, _, rfl, rfl, ⟨rfl, rfl, rfl, rfl, rfl, rfl, hshows⟩, rfl, rfl, rfl⟩

theorem IsFresh.spawn (h : session.IsFresh config url shown) (after : AfterBoot) :
    ∃ (next more : Except TransportError Unit → Move) (session' : Session),
      session.spawn after = .spawn next ∧
      next (.ok ()) = .post 0 (.boot config url) more ∧ more (.ok ()) = session'.awaitBoot after ∧
      session'.IsBooting config shown ∧ session'.statements = session.statements ∧
      session'.lastRun = session.lastRun := by
  obtain ⟨config, url, phase, live, spawned, pending, bootError, lastRun, prompt, request, announce,
    sequence, statements, history, transcript⟩ := session
  obtain ⟨rfl, rfl, rfl, rfl, rfl, rfl, hshows⟩ := h
  exact ⟨_, _, _, rfl, rfl, rfl, ⟨rfl, rfl, rfl, rfl, rfl, hshows⟩, rfl, rfl⟩

theorem IsBooting.awaitBoot (h : session.IsBooting config shown) (after : AfterBoot) :
    session.awaitBoot after = .done (.listen (.boot after), session) := by
  rw [Session.awaitBoot, if_pos h.pending, listen, h.live]
  rfl

theorem IsBooting.hear (h : session.IsBooting config shown) (after : AfterBoot) :
    ∃ session' : Session, session.hear (.boot after) (.event .initOk) = session'.afterBoot after ∧
      session'.Sits 0 shown ∧ session'.pending = none ∧
      session'.statements = session.statements ∧ session'.lastRun = session.lastRun := by
  refine ⟨{ session with pending := none, phase := .ready }, ?_,
    { h with phase := rfl }, rfl, rfl, rfl⟩
  show (session.takeBoot true none).bind (fun s => s.awaitBoot after) = _
  rw [takeBoot, if_pos h.pending, if_pos rfl]
  rfl

theorem Sits.postRun {n : Nat} (h : session.Sits n shown) (code : String) (reply : Reply) :
    ∃ next, session.postRun code reply = .post 0 (.run code) next ∧
      next (.ok ()) =
        ({ session with pending := some .run, lastRun := none } : Session).reply reply := by
  rw [Session.postRun, h.live]
  exact ⟨_, rfl, rfl⟩

/-- A complete statement is in the history and on the console. -/
def record (session : Session) (code : String) : Session :=
  ({ session with
      statements := .empty
      history := session.history.push (String.ofList (Text.trim code.toList)) } : Session).print
    .input (String.ofList (Text.trimEnd code.toList))

/-- What the user types while nothing runs completes a statement or does not. -/
theorem line_cases (hpending : session.pending = none)
    (htyping : session.statements.awaitingInput = false) (text : String) :
    (∃ code, session.statements.push text = (.statement code, .empty) ∧
      session.call (.line text) =
        (session.record code).submit code (.line (.statement code))) ∨
    ∃ outcome statements, session.statements.push text = (outcome, statements) ∧
      statements.awaitingInput = false ∧ (∀ code, outcome ≠ .statement code) ∧
      Reply.isUnfinished (.line outcome) = false ∧
      session.call (.line text) =
        ({ session with statements } : Session).reply (.line outcome) := by
  have hcall : session.call (.line text) = session.takeLine text := by
    simp only [call, line, isAwaitingInput, htyping, isRunPending, hpending, Bool.false_eq_true,
      if_false]
    rfl
  rw [hcall, takeLine]
  simp only [StatementBuffer.push, htyping, Bool.false_eq_true, if_false]
  split
  · exact .inr ⟨_, _, rfl, htyping, by rintro _ ⟨⟩, rfl, rfl⟩
  · split
    · exact .inr ⟨_, _, rfl, rfl, by rintro _ ⟨⟩, rfl, rfl⟩
    · exact .inl ⟨_, rfl, rfl⟩

theorem Sits.withStatements {n : Nat} (h : session.Sits n shown) (statements : StatementBuffer) :
    ({ session with statements } : Session).Sits n shown :=
  { h with }

theorem IsFresh.withStatements (h : session.IsFresh config url shown)
    (statements : StatementBuffer) :
    ({ session with statements } : Session).IsFresh config url shown :=
  { h with }

theorem Sits.record {n : Nat} (h : session.Sits n shown) (code : String) :
    (session.record code).Sits n
      (shown ++ [⟨.input, String.ofList (Text.trimEnd code.toList)⟩]) :=
  { h with shows := h.shows.print .input _ }

theorem IsFresh.record (h : session.IsFresh config url shown) (code : String) :
    (session.record code).IsFresh config url
      (shown ++ [⟨.input, String.ofList (Text.trimEnd code.toList)⟩]) :=
  { h with shows := h.shows.print .input _ }

theorem Sits.submit {n : Nat} (h : session.Sits n shown) (hpending : session.pending = none)
    (code : String) (reply : Reply) : session.submit code reply = session.postRun code reply := by
  rw [Session.submit, isRunPending, hpending, if_neg (by rintro ⟨⟩), if_pos h.phase]

theorem IsFresh.submit (h : session.IsFresh config url shown) (hpending : session.pending = none)
    (code : String) (reply : Reply) :
    session.submit code reply = session.launch (.run code reply) := by
  rw [Session.submit, isRunPending, hpending, if_neg (by rintro ⟨⟩), h.phase, if_neg (by rintro ⟨⟩)]

theorem HasAsked.line {request : UInt64} (h : session.HasAsked request)
    (hlive : session.live = some 0) (text : String) :
    session.call (.line text) = .done (.listen (.poll (.line (some request) text)), session) := by
  simp only [call, Session.line, isAwaitingInput, h.statements, if_true, awaitSilence, hlive,
    listen, h.request]
  rfl

theorem HasAsked.answer {n : Nat} {request : UInt64} (h : session.HasAsked request)
    (hsits : session.Sits n shown) (text : String) :
    ∃ (next : Except BufferError Unit → Move) (session' : Session),
      session.hear (.poll (.line (some request) text)) .quiet =
        .write (.line request (UInt64.ofNat n) (String.ofList (Text.dropLineEnd text.toList)))
          next ∧
      next (.ok ()) =
        session'.reply (.line (.input (String.ofList (Text.dropLineEnd text.toList)))) ∧
      session'.Sits (n + 1) (shown ++ [⟨.input, String.ofList (Text.dropLineEnd text.toList)⟩]) ∧
      session'.IsBusy := by
  have hpush : session.statements.push text =
      (.input (String.ofList (Text.dropLineEnd text.toList)), .empty) := by
    rw [h.statements]
    rfl
  have hmove : session.hear (.poll (.line (some request) text)) .quiet = session.takeLine text := by
    simp only [hear, expire, afterPoll, isOpen, h.request, Option.isSome_some, Bool.true_and,
      beq_self_eq_true, if_true]
  rw [hmove]
  simp only [takeLine, hpush, writeInput, h.request, hsits.sequence]
  refine ⟨_, _, rfl, rfl, ⟨hsits.live, hsits.phase, ?_, hsits.shows.print .input _⟩, h.pending, rfl⟩
  exact (UInt64.ofNat_add n 1).symm

end Session
end ScriptConsole
