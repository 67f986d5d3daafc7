import ScriptConsole.Proofs.Session.Hearing
import ScriptConsole.Proofs.Session.Unasked
import ScriptConsole.Proofs.Text.Lines

/-!
Answers to a script that waits for a line. A typed line and a line that the host delivers are
answers in the same way: the session hears its worker out and then writes the line, if the request
is still open. They differ in what they leave of the statement that is being typed, and neither can
be given again if the line could not be written.
-/

namespace ScriptConsole.Session

variable {session stood last : Session} {call : Call} {reply : Reply} {text : String}
  {request : UInt64} {notes : List Note} {result : Except SessionError Reply}

/-- What an answer leaves of the lines that were typed before it. -/
def Call.linesLeft : Call → List (List Char) → List (List Char)
  | .line _, _ => []
  | _, lines => lines

/-- How an answer ends that is given once the worker was heard out, and how it leaves the session;
`lines` are what it leaves of the statement that is being typed. -/
inductive Attempts (session : Session) (request : UInt64) (text : String) (reply : Reply)
    (lines : List (List Char)) : List Note → Except SessionError Reply → Session → Prop where
  | gone {worker : Nat} (hlive : session.live = some worker) :
      Attempts session request text reply lines [.heard worker .gone, .did (.terminated worker)]
        (.error (.transport .disconnected)) (session.abandon fun _ => .disconnected)
  | late {worker : Nat} (hlive : session.live = some worker)
      (hshut : session.request ≠ some request) :
      Attempts session request text reply lines [.heard worker .quiet]
        (.error .notAwaitingInput) session
  | failed {worker : Nat} (hlive : session.live = some worker)
      (hopen : session.request = some request) (cause : BufferError) :
      Attempts session request text reply lines
        [.heard worker .quiet,
          .did (.wrote (.line request session.sequence text) (.error cause))]
        (.error (.buffer cause)) { session with statements := ⟨lines, false⟩ }
  | written {worker : Nat} (hlive : session.live = some worker)
      (hopen : session.request = some request) :
      Attempts session request text reply lines
        [.heard worker .quiet, .did (.wrote (.line request session.sequence text) (.ok ()))]
        (.ok reply)
        (({ session with
          statements := ⟨lines, false⟩
          sequence := session.sequence + 1
          request := none
          prompt := none } : Session).print .input text)

/-! ### One answer -/

theorem returns_writeInput_iff (hopen : session.request = some request) :
    (session.writeInput text reply).Returns notes result last ↔
      (∃ cause, notes = [.did (.wrote (.line request session.sequence text) (.error cause))] ∧
        result = .error (.buffer cause) ∧ last = session) ∨
      (notes = [.did (.wrote (.line request session.sequence text) (.ok ()))] ∧
        result = .ok reply ∧
        last = ({ session with
          sequence := session.sequence + 1
          request := none
          prompt := none } : Session).print .input text) := by
  rw [writeInput, hopen]
  simp only [returns_write_iff]
  constructor
  · rintro ⟨cause | ⟨⟨⟩⟩, more, h, rfl⟩
    · obtain ⟨rfl, rfl, rfl⟩ := returns_fail_iff.mp h
      exact .inl ⟨cause, rfl, rfl, rfl⟩
    · obtain ⟨rfl, rfl, rfl⟩ := returns_reply_iff.mp h
      exact .inr ⟨rfl, rfl, rfl⟩
  · rintro (⟨cause, rfl, rfl, rfl⟩ | ⟨rfl, rfl, rfl⟩)
    · exact ⟨.error cause, [], returns_fail_iff.mpr ⟨rfl, rfl, rfl⟩, rfl⟩
    · exact ⟨.ok (), [], returns_reply_iff.mpr ⟨rfl, rfl, rfl⟩, rfl⟩

/-- An answer is a poll that the line follows if the request is still open. -/
theorem exists_afterPoll (hawaiting : session.isAwaitingInput = true)
    (hrequest : session.request = some request) (hsupplies : call.Supplies reply text) :
    ∃ next, session.call call = session.awaitSilence next ∧
      (∀ stood : Session, stood.request ≠ some request →
        stood.afterPoll next = stood.fail .notAwaitingInput) ∧
      ∀ stood : Session, stood.request = some request → stood.isAwaitingInput = true →
        stood.afterPoll next =
          ({ stood with statements := ⟨call.linesLeft stood.statements.lines, false⟩ } :
            Session).writeInput text reply := by
  -- Only whether the request is still open when the worker was heard out makes a difference.
  have hshut (stood : Session) (h : stood.request ≠ some request) :
      stood.isOpen (some request) = false := by
    rw [isOpen, Option.isSome_some, Bool.true_and]
    exact beq_false_of_ne h
  have hopen (stood : Session) (h : stood.request = some request) :
      stood.isOpen (some request) = true := by
    rw [isOpen, Option.isSome_some, Bool.true_and]
    exact beq_iff_eq.mpr h
  cases call with
  | line typed =>
      cases reply with
      | line outcome =>
          cases outcome with
          | input taken =>
              obtain ⟨rfl, rfl⟩ := hsupplies
              refine ⟨.line (some request) typed, ?_, ?_, ?_⟩
              · rw [Session.call, Session.line, if_pos hawaiting, hrequest]
              · intro stood h
                rw [afterPoll, hshut stood h]
                rfl
              · intro stood h hawaits
                have hpush : stood.statements.push typed =
                    (.input (String.ofList (Text.dropLineEnd typed.toList)), .empty) :=
                  if_pos hawaits
                rw [afterPoll, hopen stood h, if_pos rfl, takeLine, hpush]
                rfl
          | _ => exact hsupplies.elim
      | _ => exact hsupplies.elim
  | deliver given =>
      cases reply with
      | done =>
          obtain rfl : given = text := hsupplies
          refine ⟨.deliver (some request) given, ?_, ?_, ?_⟩
          · rw [Session.call, Session.deliver, if_pos hawaiting, hrequest]
          · intro stood h
            rw [afterPoll, hshut stood h]
            rfl
          · intro stood h _
            rw [afterPoll, hopen stood h, if_pos rfl]
            rfl
      | _ => exact hsupplies.elim
  | _ => exact hsupplies.elim

/-- An answer to an open request is an attempt at it once the worker was heard out. -/
theorem answer_iff (hsettled : session.Settled) (hawaiting : session.isAwaitingInput = true)
    (hrequest : session.request = some request) (hsupplies : call.Supplies reply text) :
    (session.call call).Returns notes result last ↔
      ∃ before stood after, session.Hears before stood ∧
        stood.Attempts request text reply (call.linesLeft session.statements.lines) after result
          last ∧
        notes = before ++ after := by
  obtain ⟨next, hcall, hshut, hopen⟩ := exists_afterPoll hawaiting hrequest hsupplies
  have hlive : session.live ≠ none := hsettled.request (by rw [hrequest]; rintro ⟨⟩)
  rw [hcall, returns_awaitSilence_iff]
  refine exists_congr fun before => exists_congr fun stood => exists_congr fun after =>
    and_congr_right fun hhears => and_congr_left fun _ => ?_
  have hlistened := hhears.listened (hsettled.listened fun _ => hawaiting)
  -- The session that the line is written from if the request is still open.
  let trying : Session :=
    { stood with statements := ⟨call.linesLeft session.statements.lines, false⟩ }
  have htrying (hrequest : stood.request = some request) :
      stood.afterPoll next = trying.writeInput text reply := by
    rw [hopen stood hrequest (hlistened.awaits (by rw [hrequest]; rintro ⟨⟩)), hlistened.lines]
  have hsame (hrequest : stood.request = some request) : trying.request = some request := hrequest
  constructor
  · intro h
    cases h with
    | dead hdead => exact absurd (hlistened.live.symm.trans hdead) hlive
    | quiet hheld h =>
        by_cases hrequest : stood.request = some request
        · rw [htrying hrequest, returns_writeInput_iff (hsame hrequest)] at h
          rcases h with ⟨cause, rfl, rfl, rfl⟩ | ⟨rfl, rfl, rfl⟩
          · exact .failed hheld hrequest cause
          · exact .written hheld hrequest
        · rw [hshut stood hrequest, returns_fail_iff] at h
          obtain ⟨rfl, rfl, rfl⟩ := h
          exact .late hheld hrequest
    | gone hheld => exact .gone hheld
  · intro h
    cases h with
    | gone hheld => exact .gone hheld
    | late hheld hrequest =>
        refine .quiet hheld ?_
        rw [hshut _ hrequest]
        exact returns_fail_iff.mpr ⟨rfl, rfl, rfl⟩
    | failed hheld hrequest cause =>
        refine .quiet hheld ?_
        rw [htrying hrequest, returns_writeInput_iff (hsame hrequest)]
        exact .inl ⟨cause, rfl, rfl, rfl⟩
    | written hheld hrequest =>
        refine .quiet hheld ?_
        rw [htrying hrequest, returns_writeInput_iff (hsame hrequest)]
        exact .inr ⟨rfl, rfl, rfl⟩

theorem Attempts.at_once
    (h : session.Attempts request text reply (call.linesLeft session.statements.lines) notes result
      last)
    (hsettled : session.Settled) (hawaiting : session.isAwaitingInput = true)
    (hrequest : session.request = some request) (hsupplies : call.Supplies reply text) :
    (session.call call).Returns notes result last :=
  (answer_iff hsettled hawaiting hrequest hsupplies).mpr
    ⟨[], session, notes, .nothing session, h, rfl⟩

theorem supplies_deliver (text : String) : Call.Supplies (.deliver text) .done text := rfl

/-! ### Lines that cannot be written -/

theorem deliver_of_not_awaiting (h : session.isAwaitingInput = false) (text : String) :
    session.call (.deliver text) = session.fail .notAwaitingInput := by
  rw [Session.call, deliver, h]
  rfl

theorem line_of_running (h : session.isAwaitingInput = false)
    (hrunning : session.isRunPending = true) (text : String) :
    session.call (.line text) = session.fail .runInFlight := by
  rw [Session.call, line, h, hrunning]
  rfl

theorem Settled.pending_eq_none (h : session.Settled) (hidle : session.isRunPending = false) :
    session.pending = none := by
  cases hpending : session.pending with
  | none => rfl
  | some pending =>
      cases pending with
      | init => exact absurd hpending h.booted.2
      | run =>
          rw [isRunPending, hpending] at hidle
          cases hidle

theorem awaiting_of_buffer_error (hsettled : session.Settled) (hrequest : session.request ≠ none)
    (hsupplies : call.Supplies reply text) {cause : BufferError}
    (h : (session.call call).Returns notes (.error (.buffer cause)) last) :
    session.isAwaitingInput = true := by
  by_contra hnot
  rw [Bool.not_eq_true] at hnot
  cases call with
  | line typed =>
      cases hrunning : session.isRunPending with
      | true =>
          rw [line_of_running hnot hrunning] at h
          cases (returns_fail_iff.mp h).2.1
      | false =>
          rcases line_cases (hsettled.pending_eq_none hrunning) hnot typed with
            ⟨code, -, hcall⟩ | ⟨outcome, statements, -, -, -, -, hcall⟩
          · have hlive := hsettled.request hrequest
            obtain ⟨worker, hworker⟩ := Option.ne_none_iff_exists'.mp hlive
            have hidle : (session.record code).isRunPending = false := hrunning
            have hready : (session.record code).phase = .ready := hsettled.ready.mpr hlive
            have hheld : (session.record code).live = some worker := hworker
            rw [hcall, submit, hidle, if_neg Bool.false_ne_true, if_pos hready,
              returns_postRun_iff hheld] at h
            rcases h with ⟨cause, -, herror, -⟩ | ⟨-, herror, -⟩
            · cases herror
            · cases herror
          · rw [hcall] at h
            cases (returns_reply_iff.mp h).2.1
  | deliver given =>
      rw [deliver_of_not_awaiting hnot] at h
      cases (returns_fail_iff.mp h).2.1
  | _ => exact hsupplies.elim

variable {config : Config} {url : String} {log : List Note}

theorem Course.settled (h : Course config url log (.resting session)) : session.Settled := by
  obtain ⟨r, ⟨-, hsettled⟩, -⟩ := h.settles
  exact hsettled

/-- A line that cannot be written strands the request for it. The session is left as a poll leaves
it, with the request still open, but it waits for no line any more: a line that is delivered is
turned away, a line that is typed is turned away while the run goes on, and whatever else is asked
of the session, no line is written before the worker makes another request. -/
theorem failed_answer_strands_request {cause : BufferError}
    (h : Course config url log (.resting session)) (hrequest : session.request = some request)
    (hsupplies : call.Supplies reply text)
    (hreturns : (session.call call).Returns notes (.error (.buffer cause)) last) :
    ∃ heard stood, (session.call .poll).Returns heard (.ok .done) stood ∧
      notes = heard ++ [.did (.wrote (.line request session.sequence text) (.error cause))] ∧
      stood.isAwaitingInput = true ∧ stood.request = some request ∧
      stood.sequence = session.sequence ∧ stood.history = session.history ∧
      stood.transcript.texts .input = session.transcript.texts .input ∧
      last = { stood with
        statements := ⟨call.linesLeft session.statements.lines, false⟩ } ∧
      (∀ again, last.call (.deliver again) = last.fail .notAwaitingInput) ∧
      (last.isRunPending = true → ∀ again, last.call (.line again) = last.fail .runInFlight) ∧
      ∀ more stage, (Stage.resting last).Leads more stage →
        (∀ note ∈ more, ¬ note.HearsRequest) → ∀ note ∈ more, ¬ note.TriesLine := by
  have hsettled := h.settled
  have hawaiting : session.isAwaitingInput = true :=
    awaiting_of_buffer_error hsettled (by rw [hrequest]; rintro ⟨⟩) hsupplies hreturns
  obtain ⟨before, stood, after, hhears, hattempts, rfl⟩ :=
    (answer_iff hsettled hawaiting hrequest hsupplies).mp hreturns
  have hlistened := hhears.listened (hsettled.listened fun _ => hawaiting)
  cases hattempts with
  | @failed worker hlive hopen =>
      have hpoll : (stood.awaitSilence .reply).Returns [.heard worker .quiet] (.ok .done) stood :=
        Concludes.returns (.quiet hlive (returns_reply_iff.mpr ⟨rfl, rfl, rfl⟩))
      refine ⟨before ++ [.heard worker .quiet], stood, hhears.returns hpoll, ?_, ?_, hopen,
        hlistened.sequence, hlistened.history, hlistened.echoes, rfl, ?_, ?_, ?_⟩
      · rw [hlistened.sequence, List.append_assoc]
        rfl
      · exact hlistened.awaits (by rw [hopen]; rintro ⟨⟩)
      · intro again
        exact deliver_of_not_awaiting rfl again
      · intro hrunning again
        exact line_of_running rfl hrunning again
      · intro more stage hleads
        exact hleads.tries_no_line rfl

/-- A session can be asked for a line while a statement is being typed. -/
theorem exists_asked : ∃ log session, Course .default "memory://0" log (.resting session) ∧
    session.isAwaitingInput = true ∧ session.live = some 0 ∧ session.request = some 0 ∧
    session.isRunPending = true ∧ session.statements.lines = ["if x:\n".toList] := by
  have typed : Course .default "memory://0" _ _ := .step .new (.call _ (.line "if x:"))
  have submitted := typed.step (.call _ (.submit "input()"))
  have cleared := submitted.step (.deed (.write (.ok ())))
  have spawned := cleared.step (.deed (.spawn (.ok ())))
  have told := spawned.step (.deed (.post (.ok ())))
  have booted := told.step (.hear rfl (.event .initOk))
  have running := booted.step (.deed (.post (.ok ())))
  have waiting := running.step (.call _ (.wait none))
  have asked := waiting.step (.hear rfl (.event (.input 0 none)))
  have reset := asked.step (.deed (.write (.ok ())))
  exact ⟨_, _, reset, rfl, rfl, rfl, rfl, rfl⟩

/-- An answer can fail, on a full disk for example, and leave the run that asks for it pending. -/
theorem exists_failed : ∃ log session notes last,
    Course .default "memory://0" log (.resting session) ∧ session.isAwaitingInput = true ∧
    session.request = some 0 ∧
    (session.call (.deliver "bob")).Returns notes (.error (.buffer (.io (.other "disk full"))))
      last ∧
    last.isAwaitingInput = false ∧ last.request = some 0 ∧ last.isRunPending = true := by
  obtain ⟨log, session, hcourse, hawaiting, hlive, hrequest, hrunning, -⟩ := exists_asked
  have hreturns := (Attempts.failed hlive hrequest (.io (.other "disk full"))).at_once
    hcourse.settled hawaiting hrequest (supplies_deliver "bob")
  exact ⟨log, session, _, _, hcourse, hawaiting, hrequest, hreturns, rfl, hrequest, hrunning⟩

theorem failed_answer_strands_request_on_full_disk : ∃ log session notes last,
    Course .default "memory://0" log (.resting session) ∧ session.request = some 0 ∧
    Call.Supplies (.deliver "bob") .done "bob" ∧
    (session.call (.deliver "bob")).Returns notes (.error (.buffer (.io (.other "disk full"))))
      last ∧
    last.isRunPending = true ∧ ∀ again, last.call (.line again) = last.fail .runInFlight := by
  obtain ⟨log, session, notes, last, hcourse, -, hrequest, hreturns, -, -, hrunning⟩ :=
    exists_failed
  have hsupplies := supplies_deliver "bob"
  obtain ⟨heard, stood, -, -, -, -, -, -, -, -, -, hline, -⟩ :=
    failed_answer_strands_request hcourse hrequest hsupplies hreturns
  exact ⟨log, session, notes, last, hcourse, hrequest, hsupplies, hreturns, hrunning,
    hline hrunning⟩

/-- A script waits for a line, and the line cannot be written. The same line is turned away from
then on, whatever the surroundings do, though the request for it is open. -/
theorem failed_answer_cannot_be_retried : ∃ log session notes last,
    Course .default "memory://0" log (.resting session) ∧ session.isAwaitingInput = true ∧
    session.request = some 0 ∧
    (session.call (.deliver "bob")).Returns notes (.error (.buffer (.io (.other "disk full"))))
      last ∧
    last.request = some 0 ∧ last.isAwaitingInput = false ∧
    (∀ notes result final, (last.call (.deliver "bob")).Returns notes result final →
      notes = [] ∧ result = .error .notAwaitingInput) ∧
    ∀ notes result final, (last.call (.line "bob")).Returns notes result final →
      notes = [] ∧ result = .error .runInFlight := by
  obtain ⟨log, session, notes, last, hcourse, hawaiting, hrequest, hreturns, hnot, hopen,
    hrunning⟩ := exists_failed
  refine ⟨log, session, notes, last, hcourse, hawaiting, hrequest, hreturns, hopen, hnot, ?_, ?_⟩
  · intro notes result final h
    rw [deliver_of_not_awaiting hnot] at h
    obtain ⟨hnotes, hresult, -⟩ := returns_fail_iff.mp h
    exact ⟨hnotes, hresult⟩
  · intro notes result final h
    rw [line_of_running hnot hrunning] at h
    obtain ⟨hnotes, hresult, -⟩ := returns_fail_iff.mp h
    exact ⟨hnotes, hresult⟩

/-! ### Two ways to answer -/

/-- A typed line and a delivered one end alike. Both fail before anything is written and leave the
same session; or the line is written, or is to be, and then only the typed one drops the lines of
the statement that is being typed. -/
inductive AnswersAlike (session : Session) (text : String) :
    Except SessionError Reply → Session → Except SessionError Reply → Session → Prop where
  | unwritten {error : SessionError} {left : Session}
      (hlines : left.statements.lines = session.statements.lines) :
      AnswersAlike session text (.error error) left (.error error) left
  | failed {error : SessionError} {last left : Session}
      (hlast : last = { left with statements := .empty })
      (hleft : left.statements = ⟨session.statements.lines, false⟩) :
      AnswersAlike session text (.error error) last (.error error) left
  | written {last left : Session} (hlast : last = { left with statements := .empty })
      (hleft : left.statements = ⟨session.statements.lines, false⟩) :
      AnswersAlike session text (.ok (.line (.input text))) last (.ok .done) left

theorem AnswersAlike.eq_of_no_lines {given : Except SessionError Reply} {left : Session}
    (h : session.AnswersAlike text result last given left)
    (hlines : session.statements.lines = []) : last = left := by
  have hsame (hlast : last = { left with statements := .empty })
      (hleft : left.statements = ⟨session.statements.lines, false⟩) : last = left := by
    rw [hlines] at hleft
    rw [hlast, StatementBuffer.empty, ← hleft]
  cases h with
  | unwritten => rfl
  | failed hlast hleft => exact hsame hlast hleft
  | written hlast hleft => exact hsame hlast hleft

theorem abandon_lines (session : Session) (reason : Pending → TransportError) :
    (session.abandon reason).statements.lines = session.statements.lines := by
  rw [abandon]
  split <;> rfl

theorem Attempts.exists_other {lines : List (List Char)}
    (h : stood.Attempts request text reply lines notes result last) (other : Reply)
    (left : List (List Char)) :
    ∃ given final, stood.Attempts request text other left notes given final := by
  cases h with
  | gone hlive => exact ⟨_, _, .gone hlive⟩
  | late hlive hshut => exact ⟨_, _, .late hlive hshut⟩
  | failed hlive hopen cause => exact ⟨_, _, .failed hlive hopen cause⟩
  | written hlive hopen => exact ⟨_, _, .written hlive hopen⟩

/-- Two attempts with the same notes, of which one drops the lines typed before it. -/
theorem Attempts.alike {given : Except SessionError Reply} {left : Session}
    (htyped : stood.Attempts request text (.line (.input text)) [] notes result last)
    (hgiven : stood.Attempts request text .done session.statements.lines notes given left)
    (hlines : stood.statements.lines = session.statements.lines) :
    session.AnswersAlike text result last given left := by
  cases htyped with
  | gone => cases hgiven with
    | gone => exact .unwritten ((stood.abandon_lines _).trans hlines)
  | late => cases hgiven with
    | late => exact .unwritten hlines
  | failed => cases hgiven with
    | failed => exact .failed rfl rfl
  | written => cases hgiven with
    | written => exact .written rfl rfl

/-- Typing a line that has no line end and delivering it are the same answer, except to the
statement that is being typed. Whatever the surroundings do, the one ends with the notes that the
other ends with; both succeed or both fail with the same error; and the sessions that they leave
differ in that a typed line, once it is to be written, has dropped the lines before it. Where there
are none, the sessions are the same. -/
theorem answers_alike (h : Course config url log (.resting session))
    (hawaiting : session.isAwaitingInput = true)
    (hend : ∀ c, text.toList.getLast? = some c → c ≠ '\r' ∧ c ≠ '\n') :
    (∀ notes result last, (session.call (.line text)).Returns notes result last →
      ∃ given left, (session.call (.deliver text)).Returns notes given left ∧
        session.AnswersAlike text result last given left) ∧
    (∀ notes given left, (session.call (.deliver text)).Returns notes given left →
      ∃ result last, (session.call (.line text)).Returns notes result last ∧
        session.AnswersAlike text result last given left) ∧
    (session.statements.lines = [] → ∀ notes last,
      (∃ result, (session.call (.line text)).Returns notes result last) ↔
        ∃ given, (session.call (.deliver text)).Returns notes given last) := by
  have hsettled := h.settled
  obtain ⟨request, hrequest⟩ := Option.ne_none_iff_exists'.mp (hsettled.awaiting hawaiting)
  have htyped : Call.Supplies (.line text) (.line (.input text)) text := by
    refine ⟨rfl, ?_⟩
    rw [Text.dropLineEnd_eq_self hend, String.ofList_toList]
  have hgiven := supplies_deliver text
  have hlines {before : List Note} {stood : Session} (hhears : session.Hears before stood) :
      stood.statements.lines = session.statements.lines :=
    (hhears.listened (hsettled.listened fun _ => hawaiting)).lines
  -- Both ways are attempts at the same request, which differ in the lines that they leave.
  have hkeeping (notes : List Note) (result : Except SessionError Reply) (last : Session)
      (hreturns : (session.call (.line text)).Returns notes result last) :
      ∃ given left, (session.call (.deliver text)).Returns notes given left ∧
        session.AnswersAlike text result last given left := by
    obtain ⟨before, stood, after, hhears, hattempts, rfl⟩ :=
      (answer_iff hsettled hawaiting hrequest htyped).mp hreturns
    obtain ⟨given, left, hother⟩ := hattempts.exists_other .done session.statements.lines
    refine ⟨given, left, ?_, hattempts.alike hother (hlines hhears)⟩
    exact (answer_iff hsettled hawaiting hrequest hgiven).mpr
      ⟨before, stood, after, hhears, hother, rfl⟩
  have hdropping (notes : List Note) (given : Except SessionError Reply) (left : Session)
      (hreturns : (session.call (.deliver text)).Returns notes given left) :
      ∃ result last, (session.call (.line text)).Returns notes result last ∧
        session.AnswersAlike text result last given left := by
    obtain ⟨before, stood, after, hhears, hattempts, rfl⟩ :=
      (answer_iff hsettled hawaiting hrequest hgiven).mp hreturns
    obtain ⟨result, last, hother⟩ := hattempts.exists_other (.line (.input text)) []
    refine ⟨result, last, ?_, hother.alike hattempts (hlines hhears)⟩
    exact (answer_iff hsettled hawaiting hrequest htyped).mpr
      ⟨before, stood, after, hhears, hother, rfl⟩
  refine ⟨hkeeping, hdropping, fun hnone notes last => ⟨?_, ?_⟩⟩
  · rintro ⟨result, hreturns⟩
    obtain ⟨given, left, hdelivered, halike⟩ := hkeeping notes result last hreturns
    obtain rfl := halike.eq_of_no_lines hnone
    exact ⟨given, hdelivered⟩
  · rintro ⟨given, hreturns⟩
    obtain ⟨result, left, htaken, halike⟩ := hdropping notes given last hreturns
    obtain rfl := halike.eq_of_no_lines hnone
    exact ⟨result, htaken⟩

/-- The line that opened a block is still to be continued. -/
theorem answers_alike_while_typing : ∃ log session notes result last given left,
    Course .default "memory://0" log (.resting session) ∧ session.isAwaitingInput = true ∧
    (∀ c, "bob".toList.getLast? = some c → c ≠ '\r' ∧ c ≠ '\n') ∧
    (session.call (.line "bob")).Returns notes result last ∧
    (session.call (.deliver "bob")).Returns notes given left ∧
    session.AnswersAlike "bob" result last given left := by
  obtain ⟨log, session, hcourse, hawaiting, hlive, hrequest, -, -⟩ := exists_asked
  have hend : ∀ c, "bob".toList.getLast? = some c → c ≠ '\r' ∧ c ≠ '\n' := by
    intro c hlast
    obtain rfl : 'b' = c := Option.some.inj hlast
    decide
  have hreturns := (Attempts.written hlive hrequest).at_once hcourse.settled hawaiting hrequest
    (supplies_deliver "bob")
  obtain ⟨result, last, htyped, halike⟩ :=
    (answers_alike hcourse hawaiting hend).2.1 _ _ _ hreturns
  exact ⟨log, session, _, result, last, _, _, hcourse, hawaiting, hend, htyped, hreturns, halike⟩

/-- With the same answer, typed or delivered, what was typed before it is gone or is still there. -/
theorem answers_differ_while_typing : ∃ log session notes last left,
    Course .default "memory://0" log (.resting session) ∧ session.isAwaitingInput = true ∧
    (session.call (.line "bob")).Returns notes (.ok (.line (.input "bob"))) last ∧
    (session.call (.deliver "bob")).Returns notes (.ok .done) left ∧
    last.statements.pending = [] ∧ left.statements.pending = "if x:\n".toList := by
  obtain ⟨log, session, hcourse, hawaiting, hlive, hrequest, -, hlines⟩ := exists_asked
  have hsupplies : Call.Supplies (.line "bob") (.line (.input "bob")) "bob" := ⟨rfl, rfl⟩
  have htyped := (Attempts.written hlive hrequest).at_once hcourse.settled hawaiting hrequest
    hsupplies
  have hgiven := (Attempts.written hlive hrequest).at_once hcourse.settled hawaiting hrequest
    (supplies_deliver "bob")
  refine ⟨log, session, _, _, _, hcourse, hawaiting, htyped, hgiven, rfl, ?_⟩
  show session.statements.lines.flatten = _
  rw [hlines]
  rfl

end ScriptConsole.Session
