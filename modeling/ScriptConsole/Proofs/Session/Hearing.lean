import ScriptConsole.Proofs.Session.Failures

/-!
How a session hears its worker out. Before a line is taken as an answer the session takes what the
worker has said so far, and only then goes on; so an answer is a poll that something follows. What
a poll takes from the worker neither answers nor echoes anything.
-/

namespace ScriptConsole

variable {α : Type}

/-! ### Moves in two parts -/

/-- The deeds come to this value, with these notes. -/
inductive Deed.Does : Deed α → List Note → α → Prop where
  | done (value : α) : Does (.done value) [] value
  | deed {d next : Deed α} {done : Done} {notes : List Note} {value : α} (hgoes : d.Goes done next)
      (h : Does next notes value) : Does d (.did done :: notes) value

variable {notes : List Note} {result : Except SessionError Reply} {last : Session}

theorem Deed.Goes.bind {β : Type} {d left : Deed α} {done : Done} (h : d.Goes done left)
    (next : α → Deed β) : (d.bind next).Goes done (left.bind next) := by
  cases h with
  | write answer => exact .write answer
  | spawn answer => exact .spawn answer
  | post answer => exact .post answer
  | terminate => exact .terminate
  | discard => exact .discard

/-- The first deed of a move that goes on after a value is the first one that leads to the value. -/
theorem Deed.Goes.of_bind {β : Type} {d : Deed α} {next : α → Deed β} {done : Done} {left : Deed β}
    (h : (d.bind next).Goes done left) :
    (∃ value, d = .done value) ∨ ∃ d', d.Goes done d' ∧ left = d'.bind next := by
  cases d with
  | done value => exact .inl ⟨value, rfl⟩
  | write content more =>
      cases h with
      | write answer => exact .inr ⟨_, .write answer, rfl⟩
  | spawn more =>
      cases h with
      | spawn answer => exact .inr ⟨_, .spawn answer, rfl⟩
  | post worker command more =>
      cases h with
      | post answer => exact .inr ⟨_, .post answer, rfl⟩
  | terminate worker more =>
      cases h with
      | terminate => exact .inr ⟨_, .terminate, rfl⟩
  | discard worker more =>
      cases h with
      | discard => exact .inr ⟨_, .discard, rfl⟩

theorem Deed.Does.returns_bind {d : Deed α} {next : α → Move} {value : α} {before : List Note}
    (h : d.Does before value) (hnext : (next value).Returns notes result last) :
    Move.Returns (d.bind next) (before ++ notes) result last := by
  induction h with
  | done value => exact hnext
  | deed hgoes _ ih => exact .deed (hgoes.bind next) (ih hnext)

theorem Move.Returns.exists_does {d : Deed α} {next : α → Move}
    (h : Move.Returns (d.bind next) notes result last) :
    ∃ before value after, d.Does before value ∧ (next value).Returns after result last ∧
      notes = before ++ after := by
  generalize hmove : d.bind next = move at h
  induction h generalizing d with
  | deed hgoes h ih =>
      subst hmove
      rcases hgoes.of_bind with ⟨value, rfl⟩ | ⟨d', hgoes', rfl⟩
      · exact ⟨[], value, _, .done value, .deed hgoes h, rfl⟩
      · obtain ⟨before, value, after, hdoes, hreturns, rfl⟩ := ih rfl
        exact ⟨_, value, after, .deed hgoes' hdoes, hreturns, rfl⟩
  | reply result session =>
      cases d with
      | done value =>
          have hnext : next value = .done (.reply result, session) := hmove
          refine ⟨[], value, [], .done value, ?_, rfl⟩
          rw [hnext]
          exact .reply result session
      | _ => cases hmove
  | @hear session last goal worker notes result hlive heard h ih =>
      cases d with
      | done value =>
          have hnext : next value = .done (.listen goal, session) := hmove
          refine ⟨[], value, _, .done value, ?_, rfl⟩
          rw [hnext]
          exact .hear hlive heard h
      | _ => cases hmove

/-! ### Moves of one deed -/

namespace Session

variable {session : Session} {reply : Reply}

theorem returns_fail_iff {error : SessionError} :
    (session.fail error).Returns notes result last ↔
      notes = [] ∧ result = .error error ∧ last = session := by
  constructor
  · intro h
    cases h with
    | reply => exact ⟨rfl, rfl, rfl⟩
    | deed hgoes => cases hgoes
  · rintro ⟨rfl, rfl, rfl⟩
    exact .reply _ _

theorem returns_reply_iff :
    (session.reply reply).Returns notes result last ↔
      notes = [] ∧ result = .ok reply ∧ last = session := by
  constructor
  · intro h
    cases h with
    | reply => exact ⟨rfl, rfl, rfl⟩
    | deed hgoes => cases hgoes
  · rintro ⟨rfl, rfl, rfl⟩
    exact .reply _ _

theorem returns_write_iff {content : Content} {next : Except BufferError Unit → Move} :
    Move.Returns (.write content next) notes result last ↔
      ∃ answer more, (next answer).Returns more result last ∧
        notes = .did (.wrote content answer) :: more := by
  constructor
  · intro h
    cases h with
    | deed hgoes h =>
        cases hgoes with
        | write answer => exact ⟨answer, _, h, rfl⟩
  · rintro ⟨answer, more, h, rfl⟩
    exact .deed (.write answer) h

theorem returns_letGo_fail_iff {worker : Nat} (hlive : session.live = some worker)
    {reason : Pending → TransportError} {error : SessionError} :
    Move.Returns (do (← session.letGo reason).fail error) notes result last ↔
      notes = [.did (.terminated worker)] ∧ result = .error error ∧
        last = session.abandon reason := by
  rw [letGo, hlive]
  constructor
  · intro h
    cases h with
    | deed hgoes h =>
        cases hgoes with
        | terminate =>
            obtain ⟨rfl, rfl, rfl⟩ := returns_fail_iff.mp h
            exact ⟨rfl, rfl, rfl⟩
  · rintro ⟨rfl, rfl, rfl⟩
    exact .deed .terminate (returns_fail_iff.mpr ⟨rfl, rfl, rfl⟩)

theorem returns_postRun_iff {worker : Nat} (hlive : session.live = some worker) {code : String} :
    (session.postRun code reply).Returns notes result last ↔
      (∃ cause, notes = [.did (.posted worker (.run code) (.error cause)),
          .did (.terminated worker)] ∧
        result = .error (.transport cause) ∧ last = session.abandon fun _ => .disconnected) ∨
      (notes = [.did (.posted worker (.run code) (.ok ()))] ∧ result = .ok reply ∧
        last = { session with pending := some .run, lastRun := none }) := by
  rw [postRun_of_live hlive]
  constructor
  · intro h
    cases h with
    | deed hgoes h =>
        cases hgoes with
        | post answer =>
            cases answer with
            | error cause =>
                obtain ⟨rfl, rfl, rfl⟩ := (returns_letGo_fail_iff hlive).mp h
                exact .inl ⟨cause, rfl, rfl, rfl⟩
            | ok _ =>
                obtain ⟨rfl, rfl, rfl⟩ := returns_reply_iff.mp h
                exact .inr ⟨rfl, rfl, rfl⟩
  · rintro (⟨cause, rfl, rfl, rfl⟩ | ⟨rfl, rfl, rfl⟩)
    · exact .deed (.post _) ((returns_letGo_fail_iff hlive).mpr ⟨rfl, rfl, rfl⟩)
    · exact .deed (.post _) (returns_reply_iff.mpr ⟨rfl, rfl, rfl⟩)

end Session

/-! ### Hearing the worker out -/

namespace Session

variable {session stood : Session} {next : AfterPoll}

/-- The session takes one event after another. -/
inductive Hears : Session → List Note → Session → Prop where
  | nothing (session : Session) : Hears session [] session
  | event {session taken stood : Session} {worker : Nat} {before after : List Note}
      (hlive : session.live = some worker) (event : Event)
      (htake : (session.take event).Does before taken) (h : Hears taken after stood) :
      Hears session (.heard worker (.event event) :: (before ++ after)) stood

/-- The session hears no more and goes on, or learns that its worker is no more. -/
inductive Concludes (session : Session) (next : AfterPoll) :
    List Note → Except SessionError Reply → Session → Prop where
  | dead {notes : List Note} {result : Except SessionError Reply} {last : Session}
      (hlive : session.live = none) (h : (session.afterPoll next).Returns notes result last) :
      Concludes session next notes result last
  | quiet {worker : Nat} {notes : List Note} {result : Except SessionError Reply} {last : Session}
      (hlive : session.live = some worker)
      (h : (session.afterPoll next).Returns notes result last) :
      Concludes session next (.heard worker .quiet :: notes) result last
  | gone {worker : Nat} (hlive : session.live = some worker) :
      Concludes session next [.heard worker .gone, .did (.terminated worker)]
        (.error (.transport .disconnected)) (session.abandon fun _ => .disconnected)

theorem awaitSilence_of_live {worker : Nat} (hlive : session.live = some worker)
    (next : AfterPoll) : session.awaitSilence next = .done (.listen (.poll next), session) := by
  rw [awaitSilence, hlive]
  show session.listen _ = _
  rw [listen, hlive]
  rfl

theorem awaitSilence_of_dead (hlive : session.live = none) (next : AfterPoll) :
    session.awaitSilence next = session.afterPoll next := by
  rw [awaitSilence, hlive]

theorem Concludes.returns (h : session.Concludes next notes result last) :
    (session.awaitSilence next).Returns notes result last := by
  cases h with
  | dead hlive h =>
      rw [awaitSilence_of_dead hlive]
      exact h
  | quiet hlive h =>
      rw [awaitSilence_of_live hlive]
      exact .hear hlive .quiet h
  | gone hlive =>
      rw [awaitSilence_of_live hlive]
      exact .hear hlive .gone ((returns_letGo_fail_iff hlive).mpr ⟨rfl, rfl, rfl⟩)

theorem Hears.returns {before : List Note} (h : session.Hears before stood)
    (hreturns : (stood.awaitSilence next).Returns notes result last) :
    (session.awaitSilence next).Returns (before ++ notes) result last := by
  induction h with
  | nothing session => exact hreturns
  | event hlive event htake _ ih =>
      rw [awaitSilence_of_live hlive, List.cons_append, List.append_assoc]
      exact .hear hlive (.event event) (htake.returns_bind (ih hreturns))

/-- Whatever is to follow, the session hears its worker out first. -/
theorem exists_hears (h : (session.awaitSilence next).Returns notes result last) :
    ∃ before stood after, session.Hears before stood ∧
      stood.Concludes next after result last ∧ notes = before ++ after := by
  -- Every event that is taken leaves fewer notes.
  induction hlength : notes.length using Nat.strongRecOn generalizing session notes with
  | _ length ih =>
  cases hlive : session.live with
  | none =>
      rw [awaitSilence_of_dead hlive] at h
      exact ⟨[], session, notes, .nothing session, .dead hlive h, rfl⟩
  | some worker =>
      rw [awaitSilence_of_live hlive] at h
      cases h with
      | deed hgoes => cases hgoes
      | hear hholder heard h =>
          cases heard with
          | event event =>
              obtain ⟨did, taken, more, htake, hmore, rfl⟩ := Move.Returns.exists_does h
              have hfewer : more.length < length := by
                rw [List.length_cons, List.length_append] at hlength
                omega
              obtain ⟨before, stood, after, hhears, hconcludes, rfl⟩ := ih _ hfewer hmore rfl
              refine ⟨_, stood, after, .event hholder event htake hhears, hconcludes, ?_⟩
              rw [List.cons_append, List.append_assoc]
          | quiet => exact ⟨[], session, _, .nothing session, .quiet hholder h, rfl⟩
          | gone =>
              obtain ⟨rfl, rfl, rfl⟩ := (returns_letGo_fail_iff hholder).mp h
              exact ⟨[], session, _, .nothing session, .gone hholder, rfl⟩

theorem returns_awaitSilence_iff :
    (session.awaitSilence next).Returns notes result last ↔
      ∃ before stood after, session.Hears before stood ∧ stood.Concludes next after result last ∧
        notes = before ++ after := by
  constructor
  · exact exists_hears
  · rintro ⟨before, stood, after, hhears, hconcludes, rfl⟩
    exact hhears.returns hconcludes.returns

/-! ### What hearing leaves alone -/

variable {start : Session} {log : List Note}

/-- Since `start` the session has only taken what its worker said. -/
structure Listened (start : Session) (log : List Note) (session : Session) : Prop
    extends Spared start log session where
  settled : session.Settled
  live : session.live = start.live
  sequence : session.sequence = start.sequence
  awaits : session.AwaitsOpen

theorem Settled.listened (h : session.Settled) (hawaits : session.AwaitsOpen) :
    session.Listened [] session :=
  ⟨spared_refl session, h, rfl, rfl, hawaits⟩

theorem Listened.note (h : start.Listened log session) {note : Note} (hnote : ¬ note.Commits) :
    start.Listened (log ++ [note]) session :=
  ⟨h.toSpared.note hnote, h.settled, h.live, h.sequence, h.awaits⟩

theorem Listened.print (h : start.Listened log session) {kind : EntryKind}
    (hother : kind ≠ .input) (text : String) : start.Listened log (session.print kind text) :=
  ⟨h.toSpared.print hother text, h.settled.print kind text, h.live, h.sequence, h.awaits⟩

theorem takeRun_sequence (session : Session) (success : Bool) (output error : Option String) :
    (session.takeRun success output error).sequence = session.sequence := by
  cases hpending : session.isRunPending with
  | true =>
      obtain ⟨transcript, lastRun, htaken⟩ := takeRun_pending hpending success output error
      rw [htaken]
      rfl
  | false => rw [takeRun_idle hpending]

theorem Listened.takeRun (h : start.Listened log session) (success : Bool)
    (output error : Option String) :
    start.Listened log (session.takeRun success output error) := by
  obtain ⟨hsettled, hroster⟩ := h.settled.takeRun success output error
  constructor
  · exact h.toSpared.takeRun success output error
  · exact hsettled
  · exact (congrArg Roster.held hroster).trans h.live
  · exact (session.takeRun_sequence success output error).trans h.sequence
  · exact takeRun_awaiting h.awaits success output error

theorem Listened.openRequest (h : start.Listened log session) (hlive : session.live ≠ none)
    (request : UInt64) (prompt : Option String) :
    start.Listened log (session.openRequest request prompt) := by
  obtain ⟨hsettled, hroster⟩ := h.settled.openRequest hlive request prompt
  have hsequence : (session.openRequest request prompt).sequence = session.sequence := by
    obtain ⟨transcript, hprint⟩ := session.exists_printSome .output prompt
    rw [Session.openRequest, hprint]
  constructor
  · exact h.toSpared.openRequest request prompt
  · exact hsettled
  · exact (congrArg Roster.held hroster).trans h.live
  · exact hsequence.trans h.sequence
  · exact fun _ => rfl

/-- Nothing boots, so an event needs no deed but the one that clears the buffer for an answer. -/
theorem Listened.take (h : start.Listened log session) (hlive : session.live ≠ none)
    {event : Event} {did : List Note} {taken : Session}
    (htake : (session.take event).Does did taken) : start.Listened (log ++ did) taken := by
  have hpure {value : Session} (hvalue : start.Listened log value)
      (hdoes : (Deed.done value).Does did taken) : start.Listened (log ++ did) taken := by
    cases hdoes with
    | done =>
        rw [List.append_nil]
        exact hvalue
    | deed hgoes => cases hgoes
  cases event with
  | init success error =>
      rw [Session.take, takeBoot, if_neg h.settled.booted.2] at htake
      exact hpure h htake
  | run success output error => exact hpure (h.takeRun success output error) htake
  | stdout text => exact hpure (h.print (by rintro ⟨⟩) text) htake
  | stderr text => exact hpure (h.print (by rintro ⟨⟩) text) htake
  | input request prompt =>
      have hopened := h.openRequest hlive request prompt
      cases htake with
      | deed hgoes hdoes =>
          cases hgoes with
          | write answer =>
              cases hdoes with
              | done => exact hopened.note id
              | deed hgoes => cases hgoes

theorem Hears.listened {before : List Note} (h : session.Hears before stood)
    (hlistened : start.Listened log session) : start.Listened (log ++ before) stood := by
  induction h generalizing log with
  | nothing session =>
      rw [List.append_nil]
      exact hlistened
  | @event session taken stood worker did more hlive event htake _ ih =>
      have hheard : start.Listened (log ++ [.heard worker (.event event)]) session :=
        hlistened.note id
      have htaken := hheard.take (by rw [hlive]; rintro ⟨⟩) htake
      have hstood := ih htaken
      rw [List.append_assoc, List.append_assoc] at hstood
      exact hstood

end Session
end ScriptConsole
