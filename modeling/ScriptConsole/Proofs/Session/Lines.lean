import ScriptConsole.Proofs.Session.Answering
import ScriptConsole.Proofs.Session.Ending
import ScriptConsole.Proofs.Session.Writes

/-!
Where a typed line goes. While a script waits for a line it is the answer and nothing else; while
nothing runs it is a part of a statement and nothing else, and a statement that is complete is
posted once, though a worker may have to be started for it.
-/

namespace ScriptConsole

/-- A failure to start a worker or to tell it what to run. -/
def SessionError.IsOfWorker : SessionError → Prop
  | .boot _ | .initTimeout _ | .transport _ | .buffer _ => True
  | .runInFlight | .notAwaitingInput | .source _ _ => False

namespace Transcript

theorem texts_print_same (t : Transcript) (kind : EntryKind) (text : String) :
    (t.print kind text).texts kind = t.texts kind ++ [text] := by
  have hentries : (t.print kind text).entries = t.entries ++ [⟨kind, text⟩] :=
    entries_of_marks rfl
  have hshown : [Entry.mk kind text].filter (·.kind == kind) = [⟨kind, text⟩] :=
    List.filter_cons_of_pos (beq_self_eq_true kind)
  rw [texts, hentries, List.filter_append, List.map_append, hshown]
  rfl

end Transcript

namespace Session

/-- No line was to be written, and no worker was told to run a text. -/
def Idle (log : List Note) : Prop :=
  ∀ note ∈ log, ¬ note.TriesLine ∧ ¬ note.IsRun

variable {start session last : Session} {log notes : List Note} {code : String} {reply : Reply}
  {worker : Nat}

theorem Idle.note (h : Idle log) {note : Note} (hnote : ¬ note.TriesLine ∧ ¬ note.IsRun) :
    Idle (log ++ [note]) := by
  rw [Idle, List.forall_mem_append]
  exact ⟨h, List.forall_mem_singleton.mpr hnote⟩

/-! ### A text that is to run -/

/-- The worker was told to boot. -/
def Told (start : Session) (log : List Note) (worker : Nat) : Prop :=
  .did (.posted worker (.boot start.config start.bufferUrl) (.ok ())) ∈ log

/-- The worker was told to boot, and it has done so. -/
def Booted (start : Session) (log : List Note) (worker : Nat) : Prop :=
  start.Told log worker ∧ ∃ error, .heard worker (.event (.init true error)) ∈ log

theorem Told.append (h : start.Told log worker) (more : List Note) :
    start.Told (log ++ more) worker :=
  List.mem_append_left more h

/-- How a session stands that is to have a text run. What the user has typed stays as it is. -/
inductive Launches (start : Session) (code : String) (reply : Reply) :
    List Note → Turn × Session → Prop where
  | boots {log : List Note} {session : Session} {worker : Nat} (hidle : Idle log)
      (hkept : start.Spared [] session) (hboots : session.Boots)
      (hlive : session.live = some worker) (htold : start.Told log worker) :
      Launches start code reply log (.listen (.boot (.run code reply)), session)
  | posted {before : List Note} {session : Session} {worker : Nat} (hidle : Idle before)
      (hkept : start.Spared [] session) (hbooted : start.Booted before worker)
      (hlive : session.live = some worker) (hrunning : session.isRunPending = true) :
      Launches start code reply (before ++ [.did (.posted worker (.run code) (.ok ()))])
        (.reply (.ok reply), session)
  | failed {log : List Note} {session : Session} {error : SessionError} (hidle : Idle log)
      (hkept : start.Spared [] session) (hstopped : session.isRunPending = false)
      (herror : error.IsOfWorker) :
      Launches start code reply log (.reply (.error error), session)

/-- A monitor of a text that is to run; it keeps all notes. -/
def launching (start : Session) (code : String) (reply : Reply) : Monitor (List Note) where
  note log note := log ++ [note]
  May _ _ := True
  Stands log stand := start.Launches code reply log stand

theorem abandon_isRunPending (session : Session) (reason : Pending → TransportError) :
    (session.abandon reason).isRunPending = false := by
  rw [abandon]
  split <;> rfl

theorem letGo_launching {reason : Pending → TransportError} {next : Session → Move}
    (hidle : Idle log) (hnext : ∀ log, Idle log →
      (next (session.abandon reason)).Passes (start.launching code reply) log) :
    Move.Passes (start.launching code reply) (session.letGo reason >>= next) log := by
  apply letGo_passes
  · intro _
    exact hnext log hidle
  · intro worker _
    exact ⟨trivial, hnext _ (hidle.note ⟨id, id⟩)⟩

theorem giveUp_launching (hidle : Idle log) (hkept : start.Spared [] session)
    (reason : Pending → TransportError) {error : SessionError} (herror : error.IsOfWorker) :
    Move.Passes (start.launching code reply) (do (← session.letGo reason).fail error) log := by
  apply letGo_launching hidle
  intro log hidle
  exact .failed hidle (hkept.abandon reason) (session.abandon_isRunPending reason) herror

theorem postRun_launching (hidle : Idle log) (hkept : start.Spared [] session)
    (hbooted : start.Booted log worker) (hlive : session.live = some worker) :
    (session.postRun code reply).Passes (start.launching code reply) log := by
  rw [postRun_of_live hlive]
  rintro (cause | ⟨⟨⟩⟩)
  · exact ⟨trivial, giveUp_launching (hidle.note ⟨id, id⟩) hkept _ trivial⟩
  · exact ⟨trivial, .posted hidle (hkept.alike rfl rfl rfl) hbooted hlive rfl⟩

theorem awaitBoot_launching (hidle : Idle log) (hkept : start.Spared [] session)
    (hboots : session.Boots) (hlive : session.live = some worker) (htold : start.Told log worker) :
    (session.awaitBoot (.run code reply)).Passes (start.launching code reply) log := by
  rw [awaitBoot, if_pos hboots.pending, listen, hlive]
  exact .boots hidle hkept hboots hlive htold

theorem spawn_launching (hidle : Idle log) (hkept : start.Spared [] session)
    (hsettled : session.Settled) (hstopped : session.isRunPending = false)
    (hconfig : session.config = start.config) (hurl : session.bufferUrl = start.bufferUrl) :
    (session.spawn (.run code reply)).Passes (start.launching code reply) log := by
  rintro (cause | ⟨⟨⟩⟩)
  · exact ⟨trivial, .failed (hidle.note ⟨id, id⟩) hkept hstopped trivial⟩
  · refine ⟨trivial, ?_⟩
    rintro (cause | ⟨⟨⟩⟩)
    · refine ⟨trivial, trivial, .failed ?_ (hkept.alike rfl rfl rfl) hstopped trivial⟩
      exact ((hidle.note ⟨id, id⟩).note ⟨id, id⟩).note ⟨id, id⟩
    · let booting := ({ session with spawned := session.spawned + 1 } : Session).booting
        session.spawned
      have hkeeps : start.Spared [] booting := hkept.alike rfl rfl rfl
      have hboots : booting.Boots := by
        refine ⟨⟨hsettled.awaiting, ?_⟩, rfl, ?_⟩
        · intro _ hnone
          cases hnone
        · intro hnone
          cases hnone
      have htold : start.Told (log ++ [.did (.spawned (.ok ()))] ++
          [.did (.posted session.spawned (.boot session.config session.bufferUrl) (.ok ()))])
            session.spawned := by
        rw [Told, ← hconfig, ← hurl]
        exact List.mem_append_right _ (List.mem_singleton_self _)
      exact ⟨trivial, awaitBoot_launching ((hidle.note ⟨id, id⟩).note ⟨id, id⟩) hkeeps hboots rfl
        htold⟩

theorem abandon_same (session : Session) (reason : Pending → TransportError) :
    (session.abandon reason).config = session.config ∧
      (session.abandon reason).bufferUrl = session.bufferUrl := by
  rw [abandon]
  split <;> exact ⟨rfl, rfl⟩

theorem launch_launching (hpending : start.pending = none) (code : String) (reply : Reply) :
    (start.launch (.run code reply)).Passes (start.launching code reply) [] := by
  let fresh : Session := { start.abandon .terminated with bootError := none }
  obtain ⟨hsettled, -⟩ := start.abandon_settled .terminated
  obtain ⟨hconfig, hurl⟩ := start.abandon_same .terminated
  have hkept : start.Spared [] fresh :=
    ((spared_refl start).abandon .terminated).alike rfl rfl rfl
  have hfresh : fresh.Settled := hsettled.alike rfl rfl rfl rfl rfl
  have hstopped : fresh.isRunPending = false := start.abandon_isRunPending .terminated
  rw [launch, hpending]
  apply letGo_launching (List.forall_mem_nil _)
  intro log hidle
  rintro (cause | ⟨⟨⟩⟩)
  · exact ⟨trivial, .failed (hidle.note ⟨id, id⟩) hkept hstopped trivial⟩
  · exact ⟨trivial, spawn_launching (hidle.note ⟨id, id⟩) hkept hfresh hstopped hconfig hurl⟩

theorem awaitBoot_failed_launching (hidle : Idle log) (hkept : start.Spared [] session) :
    Move.Passes (start.launching code reply)
      (do (← session.letGo .terminated).awaitBoot (.run code reply)) log := by
  obtain ⟨hsettled, -⟩ := session.abandon_settled .terminated
  have hunready : (session.abandon .terminated).phase ≠ .ready := by
    intro hready
    exact hsettled.ready.mp hready (session.abandon_live .terminated)
  apply letGo_launching hidle
  intro log hidle
  rw [awaitBoot, if_neg hsettled.booted.2, if_neg hunready]
  exact .failed hidle (hkept.abandon _) (session.abandon_isRunPending _) trivial

theorem hear_launching {goal : Listening}
    (h : start.Launches code reply log (.listen goal, session)) (hlive : session.live = some worker)
    (heard : Heard) : (session.hear goal heard).Passes (start.launching code reply)
      (log ++ [.heard worker heard]) := by
  cases h with
  | @boots _ _ holder hidle hkept hboots hholder htold =>
      obtain rfl : holder = worker := Option.some.inj (hholder.symm.trans hlive)
      have hidle' : Idle (log ++ [.heard holder heard]) := hidle.note ⟨id, id⟩
      have htold' := htold.append [.heard holder heard]
      cases heard with
      | event event =>
          cases event with
          | init success error =>
              show Move.Passes _ (do (← session.takeBoot success error).awaitBoot _) _
              rw [takeBoot, if_pos hboots.pending]
              cases success with
              | true =>
                  let booted : Session := { session with pending := none, phase := .ready }
                  show Move.Passes _ (booted.postRun code reply) _
                  have hready : start.Booted _ holder :=
                    ⟨htold', error, List.mem_append_right _ (List.mem_singleton_self _)⟩
                  exact postRun_launching hidle' (hkept.alike rfl rfl rfl) hready hlive
              | false =>
                  let failed : Session :=
                    { session with pending := none, bootError := some (error.getD unknownError) }
                  have hfailed : start.Spared [] failed := hkept.alike rfl rfl rfl
                  exact awaitBoot_failed_launching hidle' hfailed
          | run success output error =>
              have hidle : session.isRunPending = false := by
                rw [isRunPending, hboots.pending]
                rfl
              show Move.Passes _ ((session.takeRun success output error).awaitBoot _) _
              rw [takeRun_idle hidle]
              exact awaitBoot_launching hidle' hkept hboots hlive htold'
          | stdout text =>
              exact awaitBoot_launching hidle' (hkept.print (by rintro ⟨⟩) text)
                (hboots.print .output text) hlive htold'
          | stderr text =>
              exact awaitBoot_launching hidle' (hkept.print (by rintro ⟨⟩) text)
                (hboots.print .error text) hlive htold'
          | input request prompt =>
              obtain ⟨hopened, hroster⟩ := hboots.openRequest request prompt
              have hheld := (congrArg Roster.held hroster).trans hlive
              intro answer
              exact ⟨trivial, awaitBoot_launching (hidle'.note ⟨id, id⟩)
                (hkept.openRequest request prompt) hopened hheld (htold'.append _)⟩
      | quiet => exact giveUp_launching hidle' hkept _ trivial
      | gone => exact giveUp_launching hidle' hkept _ trivial

/-! ### Where a line goes -/

/-- The line was taken as the answer to the open request and as nothing else. -/
inductive TakenAsAnswer (session : Session) (typed : String) :
    List Note → Except SessionError Reply → Session → Prop where
  | written {request : UInt64} {text : String} {before : List Note} {last : Session}
      (hrequest : session.request = some request)
      (htext : text = String.ofList (Text.dropLineEnd typed.toList)) (hidle : Idle before)
      (hhistory : last.history = session.history)
      (hechoes : last.transcript.texts .input = session.transcript.texts .input ++ [text]) :
      TakenAsAnswer session typed
        (before ++ [.did (.wrote (.line request session.sequence text) (.ok ()))])
        (.ok (.line (.input text))) last
  | failed {notes : List Note} {error : SessionError} {last : Session}
      (hunwritten : ∀ request sequence text,
        .did (.wrote (.line request sequence text) (.ok ())) ∉ notes)
      (hunposted : ∀ worker command answer, .did (.posted worker command answer) ∉ notes)
      (hhistory : last.history = session.history)
      (hechoes : last.transcript.texts .input = session.transcript.texts .input) :
      TakenAsAnswer session typed notes (.error error) last

/-- A statement was put on record: it was recorded trimmed, and shown without its end. -/
structure Recorded (session : Session) (source : String) (last : Session) : Prop where
  history : last.history = session.history.push (String.ofList (Text.trim source.toList))
  echoes : last.transcript.texts .input =
    session.transcript.texts .input ++ [String.ofList (Text.trimEnd source.toList)]

/-- The line was taken as a part of a statement and as nothing else. -/
inductive TakenAsCode (session : Session) (typed : String) :
    List Note → Except SessionError Reply → Session → Prop where
  | posted {source : String} {before : List Note} {worker : Nat} {last : Session}
      (hcomplete : (session.statements.push typed).1 = .statement source) (hidle : Idle before)
      (hready : session.phase = .ready → before = [] ∧ session.live = some worker)
      (hunready : session.phase ≠ .ready → session.Booted before worker)
      (hlive : last.live = some worker) (hrunning : last.isRunPending = true)
      (hrecorded : session.Recorded source last) :
      TakenAsCode session typed (before ++ [.did (.posted worker (.run source) (.ok ()))])
        (.ok (.line (.statement source))) last
  | failed {source : String} {notes : List Note} {error : SessionError} {last : Session}
      (hcomplete : (session.statements.push typed).1 = .statement source) (hidle : Idle notes)
      (herror : error.IsOfWorker) (hstopped : last.isRunPending = false)
      (hrecorded : session.Recorded source last) :
      TakenAsCode session typed notes (.error error) last
  | kept {outcome : LineOutcome} {statements : StatementBuffer}
      (hpush : session.statements.push typed = (outcome, statements))
      (hpart : outcome = .incomplete ∨ outcome = .ignored) :
      TakenAsCode session typed [] (.ok (.line outcome)) { session with statements }

theorem Spared.idle (h : start.Spared log session) : Idle log := by
  intro note hnote
  have hcommits := h.notes note hnote
  constructor
  · intro htries
    apply hcommits
    cases note with
    | did done =>
        cases done with
        | wrote content answer =>
            cases content with
            | line => trivial
            | _ => exact htries
        | _ => exact htries.elim
    | _ => exact htries.elim
  · intro hrun
    apply hcommits
    cases note with
    | did done =>
        cases done with
        | posted => trivial
        | _ => exact hrun.elim
    | _ => exact hrun.elim

theorem Spared.notMem_append (h : start.Spared log session) {note : Note} (hcommits : note.Commits)
    (hmore : note ∉ notes) : note ∉ log ++ notes := by
  intro hmem
  rcases List.mem_append.mp hmem with hbefore | hafter
  · exact h.notes note hbefore hcommits
  · exact hmore hafter

theorem Spared.recorded {source : String} (h : (session.record source).Spared [] last) :
    session.Recorded source last :=
  ⟨h.history, h.echoes.trans (Transcript.texts_print_same _ _ _)⟩

variable {config : Config} {url : String} {typed : String} {result : Except SessionError Reply}

theorem answer_taken (hsettled : session.Settled) (hawaiting : session.isAwaitingInput = true)
    (h : (session.call (.line typed)).Returns notes result last) :
    session.TakenAsAnswer typed notes result last := by
  obtain ⟨request, hrequest⟩ := Option.ne_none_iff_exists'.mp (hsettled.awaiting hawaiting)
  let text := String.ofList (Text.dropLineEnd typed.toList)
  have hsupplies : Call.Supplies (.line typed) (.line (.input text)) text := ⟨rfl, rfl⟩
  obtain ⟨before, stood, after, hhears, hattempts, rfl⟩ :=
    (answer_iff hsettled hawaiting hrequest hsupplies).mp h
  have hlistened := hhears.listened (hsettled.listened fun _ => hawaiting)
  rw [List.nil_append] at hlistened
  have hspared := hlistened.toSpared
  cases hattempts with
  | gone hlive =>
      have hleft := hspared.abandon fun _ => .disconnected
      refine .failed ?_ ?_ hleft.history hleft.echoes
      · intro request sequence text
        exact hspared.notMem_append trivial (by simp)
      · intro worker command answer
        exact hspared.notMem_append trivial (by simp)
  | late hlive hshut =>
      refine .failed ?_ ?_ hspared.history hspared.echoes
      · intro request sequence text
        exact hspared.notMem_append trivial (by simp)
      · intro worker command answer
        exact hspared.notMem_append trivial (by simp)
  | failed hlive hopen cause =>
      refine .failed ?_ ?_ hspared.history hspared.echoes
      · intro request sequence text
        exact hspared.notMem_append trivial (by simp)
      · intro worker command answer
        exact hspared.notMem_append trivial (by simp)
  | @written worker hlive hopen =>
      have hidle : Idle (before ++ [.heard worker .quiet]) := hspared.idle.note ⟨id, id⟩
      rw [hlistened.sequence, ← List.singleton_append, ← List.append_assoc]
      refine .written hrequest rfl hidle hspared.history ?_
      rw [← hspared.echoes]
      exact Transcript.texts_print_same _ _ _

/-- What is typed while nothing is asked for and nothing runs is put to the statement that is being
typed, and the worker hears of a complete one only. -/
theorem code_taken (hsettled : session.Settled) (hquiet : session.isAwaitingInput = false)
    (hstopped : session.isRunPending = false)
    (h : (session.call (.line typed)).Returns notes result last) :
    session.TakenAsCode typed notes result last := by
  have hpending := hsettled.pending_eq_none hstopped
  rcases line_cases hpending hquiet typed with
    ⟨source, hpush, hcall⟩ | ⟨outcome, statements, hpush, -, hpart, -, hcall⟩
  · have hcomplete : (session.statements.push typed).1 = .statement source := by rw [hpush]
    have hidle : (session.record source).isRunPending = false := hstopped
    rw [hcall, submit, hidle, if_neg Bool.false_ne_true] at h
    -- A worker that is ready is told the statement at once, and otherwise one is started first.
    by_cases hready : session.phase = .ready
    · have hsame : (session.record source).phase = .ready := hready
      obtain ⟨worker, hlive⟩ := Option.ne_none_iff_exists'.mp (hsettled.ready.mp hready)
      have hheld : (session.record source).live = some worker := hlive
      have hspared := spared_refl (session.record source)
      have hnone : Idle [] := List.forall_mem_nil _
      rw [if_pos hsame, returns_postRun_iff hheld] at h
      rcases h with ⟨cause, rfl, rfl, rfl⟩ | ⟨rfl, rfl, rfl⟩
      · exact .failed hcomplete ((hnone.note ⟨id, id⟩).note ⟨id, id⟩) trivial
          (abandon_isRunPending _ _) (hspared.abandon _).recorded
      · have hrecorded := (hspared.alike rfl rfl rfl : (session.record source).Spared []
          { session.record source with pending := some .run, lastRun := none }).recorded
        exact .posted hcomplete hnone (fun _ => ⟨rfl, hlive⟩) (absurd hready) hlive rfl hrecorded
    · have hsame : (session.record source).phase ≠ .ready := hready
      rw [if_neg hsame] at h
      have hpasses := launch_launching (show (session.record source).pending = none from hpending)
        source (.line (.statement source))
      have hlaunches := h.passes (fun _ _ _ _ heard hstands hlive =>
        hear_launching hstands hlive heard) hpasses
      have hnotes : notes.foldl
          ((session.record source).launching source (.line (.statement source))).note [] = notes :=
        fairness_notes (session.record source) [] notes
      rw [hnotes] at hlaunches
      cases hlaunches with
      | posted hidle hkept hbooted hlive hrunning =>
          exact .posted hcomplete hidle (fun h => absurd h hready) (fun _ => hbooted) hlive hrunning
            hkept.recorded
      | failed hidle hkept hstopped herror =>
          exact .failed hcomplete hidle herror hstopped hkept.recorded
  · have hkept := push_of_not_awaiting hquiet typed
    rw [hpush] at hkept
    rw [hcall, returns_reply_iff] at h
    obtain ⟨rfl, rfl, rfl⟩ := h
    refine .kept hpush ?_
    cases outcome with
    | statement source => exact absurd rfl (hpart source)
    | input text => exact absurd rfl (hkept text)
    | incomplete => exact .inl rfl
    | ignored => exact .inr rfl

/-- Every typed line goes to one place, and there is a reply to it in the end. While a line is
waited for it is the answer to the open request: it is written for that request once, or there is
an error and it is written nowhere; and it is no statement in either case. While no line is waited
for and nothing runs it is a part of a statement: one that is complete is recorded and shown, and
posted once, to a worker that has been started unless there was one; otherwise nothing is posted,
and no line is written at all. While something runs it is turned away. -/
theorem line_goes_to_one_place (h : Course config url log (.resting session)) (typed : String) :
    (∀ n, (session.call (.line typed)).Ends n) ∧
    ∀ notes result last, (session.call (.line typed)).Returns notes result last →
      (session.isAwaitingInput = true → session.TakenAsAnswer typed notes result last) ∧
      (session.isAwaitingInput = false → session.isRunPending = false →
        session.TakenAsCode typed notes result last) ∧
      (session.isAwaitingInput = false → session.isRunPending = true →
        notes = [] ∧ result = .error .runInFlight ∧ last = session) := by
  constructor
  · intro n
    exact session.call_ends n (.line typed)
  · intro notes result last hreturns
    refine ⟨?_, ?_, ?_⟩
    · intro hawaiting
      exact answer_taken h.settled hawaiting hreturns
    · intro hquiet hstopped
      exact code_taken h.settled hquiet hstopped hreturns
    · intro hquiet hrunning
      rw [line_of_running hquiet hrunning] at hreturns
      exact returns_fail_iff.mp hreturns

/-- A statement for which a worker is started, and an answer to a script. -/
theorem line_goes_to_one_place_of_each_kind :
    (∃ notes last, ((new .default "memory://0").call (.line "1")).Returns notes
        (.ok (.line (.statement "1\n"))) last ∧
      (new .default "memory://0").TakenAsCode "1" notes (.ok (.line (.statement "1\n"))) last) ∧
    ∃ log session notes last, Course .default "memory://0" log (.resting session) ∧
      session.isAwaitingInput = true ∧
      (session.call (.line "bob")).Returns notes (.ok (.line (.input "bob"))) last ∧
      session.TakenAsAnswer "bob" notes (.ok (.line (.input "bob"))) last := by
  constructor
  · have hreturns : ((new .default "memory://0").call (.line "1")).Returns _
        (.ok (.line (.statement "1\n"))) _ :=
      .deed (.write (.ok ())) (.deed (.spawn (.ok ())) (.deed (.post (.ok ()))
        (.hear rfl (.event .initOk) (.deed (.post (.ok ())) (.reply _ _)))))
    exact ⟨_, _, hreturns, ((line_goes_to_one_place .new "1").2 _ _ _ hreturns).2.1 rfl rfl⟩
  · obtain ⟨log, session, hcourse, hawaiting, hlive, hrequest, -, -⟩ := exists_asked
    have hsupplies : Call.Supplies (.line "bob") (.line (.input "bob")) "bob" := ⟨rfl, rfl⟩
    have hreturns := (Attempts.written hlive hrequest).at_once hcourse.settled hawaiting hrequest
      hsupplies
    exact ⟨log, session, _, _, hcourse, hawaiting, hreturns,
      ((line_goes_to_one_place hcourse "bob").2 _ _ _ hreturns).1 hawaiting⟩

end Session
end ScriptConsole
