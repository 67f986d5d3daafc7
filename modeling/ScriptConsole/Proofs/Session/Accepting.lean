import ScriptConsole.Proofs.Session.Failures

/-!
Sessions that take a typed line. As long as the shared buffer can be written, a session whose run
is pending goes back to its host only when the run waits for a line, or when the host has not
waited for the run yet.
-/

namespace ScriptConsole

variable {P Q : Turn × Session → Prop}

/-- As long as the buffer can be written, the move comes to rest or to listening in this way. -/
def Move.Lands (P : Turn × Session → Prop) : Move → Prop
  | .done stand => P stand
  | .write _ next => Lands P (next (.ok ()))
  | .spawn next => ∀ answer, Lands P (next answer)
  | .post _ _ next => ∀ answer, Lands P (next answer)
  | .terminate _ next => Lands P (next ())
  | .discard _ next => Lands P (next ())

theorem Move.Lands.did {move next : Move} {done : Done} (h : move.Lands P)
    (hgoes : move.Goes done next)
    (hwritten : ∀ content answer, done = .wrote content answer → answer = .ok ()) :
    next.Lands P := by
  cases hgoes with
  | write answer =>
      obtain rfl := hwritten _ answer rfl
      exact h
  | spawn answer => exact h answer
  | post answer => exact h answer
  | terminate => exact h
  | discard => exact h

theorem Move.Settles.lands {move : Move} {r : Roster} (h : move.Settles r) (hlands : move.Lands Q) :
    move.Lands fun stand => Session.StandsWell stand ∧ Q stand := by
  induction move generalizing r with
  | done stand => exact ⟨h.2, hlands⟩
  | write content next ih => exact ih _ (h (.ok ())) hlands
  | spawn next ih =>
      intro answer
      exact ih answer (h answer).2 (hlands answer)
  | post worker command next ih =>
      intro answer
      exact ih answer (h answer) (hlands answer)
  | terminate worker next ih => exact ih () h.2 hlands
  | discard worker next ih => exact ih () h.2 hlands

/-- With a buffer that can be written, the session makes this move and returns a result in the end.
A session whose patience has no limit does not hear silence. -/
inductive Move.Yields : Move → Except SessionError Reply → Session → Prop where
  | reply (result : Except SessionError Reply) (session : Session) :
      Yields (.done (.reply result, session)) result session
  | deed {move next : Move} {done : Done} {result : Except SessionError Reply} {session : Session}
      (hgoes : move.Goes done next)
      (hwritten : ∀ content answer, done = .wrote content answer → answer = .ok ())
      (h : Yields next result session) : Yields move result session
  | hear {session last : Session} {goal : Listening} {worker : Nat}
      {result : Except SessionError Reply} (hlive : session.live = some worker) (heard : Heard)
      (hquiet : heard = .quiet → session.patience goal ≠ .unbounded)
      (h : Yields (session.hear goal heard) result last) :
      Yields (.done (.listen goal, session)) result last

theorem Move.Yields.lands {move : Move} {result : Except SessionError Reply} {session : Session}
    (h : move.Yields result session)
    (hhear : ∀ (session : Session) (goal : Listening) (heard : Heard), P (.listen goal, session) →
      (heard = .quiet → session.patience goal ≠ .unbounded) →
        (session.hear goal heard).Lands P)
    (hlands : move.Lands P) : P (.reply result, session) := by
  induction h with
  | reply result session => exact hlands
  | deed hgoes hwritten _ ih => exact ih (hlands.did hgoes hwritten)
  | hear hlive heard hquiet _ ih => exact ih (hhear _ _ heard hlands hquiet)

namespace Session

/-- A typed line is not turned away because of a run. -/
def Accepts (session : Session) : Prop :=
  session.isRunPending = true → session.isAwaitingInput = true

/-- The session answers the next line of its user, whichever it is. -/
structure Attentive (session : Session) : Prop where
  awaits : session.AwaitsOpen
  accepts : session.Accepts

/-- How a session stands that was called by a host who will still wait, if `waits` says so, before
the next line is typed. -/
def Welcomes (waits : Bool) : Turn × Session → Prop
  | (.reply (.ok _), session) => session.AwaitsOpen ∧ (waits = false → session.Accepts)
  | (.reply (.error error), session) => session.Attentive ∧ error ≠ .runInFlight
  | (.listen (.boot next), session) => session.AwaitsOpen ∧ (next = .reply ∨ waits = true)
  | (.listen (.wait limit), session) => session.AwaitsOpen ∧ limit = none
  | (.listen (.poll next), session) =>
      session.Attentive ∧ waits = true ∧ ∃ request text, next = .line request text

variable {session : Session} {waits : Bool}

theorem accepts_of_ne_run (hpending : session.pending ≠ some .run) : session.Accepts := by
  intro hrun
  exact absurd (beq_iff_eq.mp hrun) hpending

theorem Settled.accepts_of_dead (h : session.Settled) (hlive : session.live = none) :
    session.Accepts := by
  apply accepts_of_ne_run
  intro hrun
  exact h.ready.mp (h.run hrun) hlive

theorem abandon_attentive (session : Session) (reason : Pending → TransportError) :
    (session.abandon reason).Attentive := by
  constructor
  · intro hrequest
    exact absurd (abandon_request session reason) hrequest
  · apply accepts_of_ne_run
    rw [abandon]
    split <;> rintro ⟨⟩

theorem Attentive.print (h : session.Attentive) (kind : EntryKind) (text : String) :
    (session.print kind text).Attentive :=
  ⟨h.awaits, h.accepts⟩

theorem printRejection_attentive (h : session.Attentive) (pending : Option Pending) :
    (session.printRejection pending).Attentive := by
  cases pending with
  | none => exact h
  | some pending => exact h.print .error _

/-! ### Steps that moves are made of -/

theorem letGo_lands {reason : Pending → TransportError} {next : Session → Move}
    (hnext : (next (session.abandon reason)).Lands P) :
    Move.Lands P (session.letGo reason >>= next) := by
  rw [letGo]
  cases session.live with
  | none => exact hnext
  | some worker => exact hnext

theorem Attentive.fail (h : session.Attentive) {error : SessionError}
    (herror : error ≠ .runInFlight) : (session.fail error).Lands (Welcomes waits) :=
  ⟨h, herror⟩

theorem letGo_fail_lands (session : Session) (reason : Pending → TransportError)
    {error : SessionError} (herror : error ≠ .runInFlight) :
    Move.Lands (Welcomes waits) (do (← session.letGo reason).fail error) :=
  letGo_lands ((session.abandon_attentive reason).fail herror)

theorem Attentive.postRun (h : session.Attentive) (code : String) (result : Reply) :
    (session.postRun code result).Lands (Welcomes true) := by
  cases hlive : session.live with
  | none =>
      rw [Session.postRun, hlive]
      exact h.fail (by rintro ⟨⟩)
  | some worker =>
      rw [postRun_of_live hlive]
      rintro (cause | _)
      · exact letGo_fail_lands session _ (by rintro ⟨⟩)
      · exact ⟨h.awaits, by rintro ⟨⟩⟩

theorem Attentive.afterBoot (h : session.Attentive) {next : AfterBoot}
    (hnext : next = .reply ∨ waits = true) : (session.afterBoot next).Lands (Welcomes waits) := by
  cases next with
  | reply => exact ⟨h.awaits, fun _ => h.accepts⟩
  | run code result =>
      obtain rfl : waits = true := hnext.resolve_left (by rintro ⟨⟩)
      exact h.postRun code result

theorem Attentive.awaitBoot (h : session.Attentive) {next : AfterBoot}
    (hnext : next = .reply ∨ waits = true) : (session.awaitBoot next).Lands (Welcomes waits) := by
  rw [Session.awaitBoot]
  split
  · rw [Session.listen]
    cases session.live with
    | none => exact h.fail (by rintro ⟨⟩)
    | some worker => exact ⟨h.awaits, hnext⟩
  · split
    · exact h.afterBoot hnext
    · exact h.fail (by rintro ⟨⟩)

theorem Attentive.spawn (h : session.Attentive) {next : AfterBoot}
    (hnext : next = .reply ∨ waits = true) : (session.spawn next).Lands (Welcomes waits) := by
  rintro (cause | _)
  · exact h.fail (by rintro ⟨⟩)
  · rintro (cause | _)
    · have hagain : ({ session with spawned := session.spawned + 1 } : Session).Attentive :=
        ⟨h.awaits, h.accepts⟩
      exact hagain.fail (by rintro ⟨⟩)
    · have hboots : (({ session with spawned := session.spawned + 1 } : Session).booting
          session.spawned).Attentive :=
        ⟨h.awaits, accepts_of_ne_run (by rintro ⟨⟩)⟩
      exact hboots.awaitBoot hnext

theorem launch_lands (session : Session) {next : AfterBoot} (hnext : next = .reply ∨ waits = true) :
    (session.launch next).Lands (Welcomes waits) := by
  have hleft := printRejection_attentive (session.abandon_attentive .terminated) session.pending
  have hfresh : ({ (session.abandon .terminated).printRejection session.pending with
      bootError := none } : Session).Attentive :=
    ⟨hleft.awaits, hleft.accepts⟩
  apply letGo_lands
  exact hfresh.spawn hnext

theorem Attentive.submit (h : session.Attentive) (hidle : session.isRunPending = false)
    (code : String) (result : Reply) : (session.submit code result).Lands (Welcomes true) := by
  rw [Session.submit, hidle]
  split
  · next hrun => cases hrun
  · split
    · exact h.postRun code result
    · exact launch_lands session (.inr rfl)

/-! ### Typed lines -/

/-- A line answers the open request, or nothing is pending that it could disturb. -/
theorem takeLine_lands (hsettled : session.Settled) (h : session.Attentive) (text : String) :
    (session.takeLine text).Lands (Welcomes true) := by
  have hquiet := push_awaitingInput session.statements text
  rw [takeLine]
  cases hawaiting : session.isAwaitingInput with
  | true =>
      obtain ⟨request, hrequest⟩ := Option.ne_none_iff_exists'.mp (hsettled.awaiting hawaiting)
      have hpush : ∃ line, session.statements.push text = (.input line, .empty) :=
        ⟨_, if_pos hawaiting⟩
      obtain ⟨line, hpush⟩ := hpush
      rw [hpush]
      show Move.Lands _ (writeInput { session with statements := .empty } line _)
      rw [writeInput, hrequest]
      exact ⟨fun hopen => absurd rfl hopen, by rintro ⟨⟩⟩
  | false =>
      have hidle : session.isRunPending = false := by
        rw [Bool.eq_false_iff]
        intro hrun
        rw [h.accepts hrun] at hawaiting
        cases hawaiting
      have hclosed : session.request = none := by
        cases hrequest : session.request with
        | none => rfl
        | some request =>
            rw [h.awaits (by rw [hrequest]; rintro ⟨⟩)] at hawaiting
            cases hawaiting
      have hnone := push_of_not_awaiting hawaiting text
      generalize session.statements.push text = pushed at hquiet hnone ⊢
      obtain ⟨outcome, statements⟩ := pushed
      have hnext : ({ session with statements } : Session).Attentive := by
        constructor
        · intro hopen
          exact absurd hclosed hopen
        · intro hrun
          rw [show ({ session with statements } : Session).isRunPending = false from hidle] at hrun
          cases hrun
      cases outcome with
      | statement source =>
          apply Attentive.submit
          · exact ⟨hnext.awaits, hnext.accepts⟩
          · exact hidle
      | input line => exact absurd rfl (hnone line)
      | ignored => exact ⟨hnext.awaits, by rintro ⟨⟩⟩
      | incomplete => exact ⟨hnext.awaits, by rintro ⟨⟩⟩

theorem afterPoll_lands (hsettled : session.Settled) (h : session.Attentive)
    (request : Option UInt64) (text : String) :
    (session.afterPoll (.line request text)).Lands (Welcomes true) := by
  rw [Session.afterPoll]
  split
  · exact takeLine_lands hsettled h text
  · exact h.fail (by rintro ⟨⟩)

theorem awaitSilence_lands (hsettled : session.Settled) (h : session.Attentive)
    (request : Option UInt64) (text : String) :
    (session.awaitSilence (.line request text)).Lands (Welcomes true) := by
  rw [Session.awaitSilence]
  split
  · exact afterPoll_lands hsettled h request text
  · next worker hlive =>
    rw [Session.listen, hlive]
    exact ⟨h, rfl, request, text, rfl⟩

theorem awaitQuiet_lands (hsettled : session.Settled) (hawaits : session.AwaitsOpen) :
    (session.awaitQuiet none).Lands (Welcomes waits) := by
  rw [Session.awaitQuiet]
  split
  · next hannounced =>
    refine ⟨hawaits, ?_⟩
    intro _ _
    exact (Bool.and_eq_true_iff.mp hannounced).2
  · split
    · next hidle =>
      refine ⟨hawaits, ?_⟩
      intro _
      apply accepts_of_ne_run
      rw [hidle]
      rintro ⟨⟩
    · rw [Session.listen]
      cases hlive : session.live with
      | none => exact Attentive.fail ⟨hawaits, hsettled.accepts_of_dead hlive⟩ (by rintro ⟨⟩)
      | some worker => exact ⟨hawaits, rfl⟩

theorem line_lands (hsettled : session.Settled) (h : session.Attentive) (text : String) :
    (session.line text).Lands (Welcomes true) := by
  rw [line]
  split
  · exact awaitSilence_lands hsettled h _ text
  · next hquiet =>
    split
    · next hrun => exact absurd (h.accepts hrun) hquiet
    · exact takeLine_lands hsettled h text

/-! ### What is heard -/

theorem openRequest_attentive (session : Session) (request : UInt64) (prompt : Option String) :
    (session.openRequest request prompt).Attentive := by
  constructor
  · intro _
    rfl
  · intro _
    rfl

theorem takeRun_accepts (h : session.Accepts) (success : Bool) (output error : Option String) :
    (session.takeRun success output error).Accepts := by
  cases hpending : session.isRunPending with
  | true =>
      obtain ⟨transcript, lastRun, htaken⟩ := takeRun_pending hpending success output error
      rw [htaken]
      exact accepts_of_ne_run (by rintro ⟨⟩)
  | false =>
      rw [takeRun_idle hpending]
      exact h

theorem take_lands (hsettled : session.Settled) (hlive : session.live ≠ none)
    (hawaits : session.AwaitsOpen) (event : Event) {next : Session → Move}
    (hnext : ∀ session' : Session, session'.Settled → session'.AwaitsOpen →
      (session.Accepts → session'.Accepts) → (next session').Lands P) :
    Move.Lands P (session.take event >>= next) := by
  cases event with
  | init success error =>
      rw [Session.take, takeBoot, if_neg hsettled.booted.2]
      exact hnext session hsettled hawaits id
  | run success output error =>
      exact hnext _ (hsettled.takeRun success output error).1
        (takeRun_awaiting hawaits success output error)
        fun haccepts => takeRun_accepts haccepts success output error
  | stdout text => exact hnext _ (hsettled.print .output text) hawaits id
  | stderr text => exact hnext _ (hsettled.print .error text) hawaits id
  | input request prompt =>
      have hopened := session.openRequest_attentive request prompt
      exact hnext _ (hsettled.openRequest hlive request prompt).1 hopened.awaits
        fun _ => hopened.accepts

theorem take_awaitBoot_lands (hboots : session.Boots) (hawaits : session.AwaitsOpen) (event : Event)
    {next : AfterBoot} (hnext : next = .reply ∨ waits = true) :
    Move.Lands (Welcomes waits) (do (← session.take event).awaitBoot next) := by
  have hidle : session.pending ≠ some .run := by
    rw [hboots.pending]
    rintro ⟨⟩
  have hattentive : session.Attentive := ⟨hawaits, accepts_of_ne_run hidle⟩
  cases event with
  | init success error =>
      rw [Session.take, takeBoot, if_pos hboots.pending]
      cases success with
      | true =>
          have hbooted : ({ session with pending := none, phase := .ready } : Session).Attentive :=
            ⟨hawaits, accepts_of_ne_run (by rintro ⟨⟩)⟩
          exact hbooted.awaitBoot hnext
      | false =>
          apply letGo_lands
          exact (abandon_attentive _ _).awaitBoot hnext
  | run success output error =>
      have hsame : session.takeRun success output error = session :=
        takeRun_idle (beq_false_of_ne hidle) success output error
      show Move.Lands _ ((session.takeRun success output error).awaitBoot next)
      rw [hsame]
      exact hattentive.awaitBoot hnext
  | stdout text => exact (hattentive.print .output text).awaitBoot hnext
  | stderr text => exact (hattentive.print .error text).awaitBoot hnext
  | input request prompt => exact (session.openRequest_attentive request prompt).awaitBoot hnext

/-- Whatever a session hears, it stands so that its user can go on, unless a wait without a limit
ends in silence. -/
theorem hear_lands {goal : Listening} {heard : Heard} (hlistens : session.Listens goal)
    (h : Welcomes waits (.listen goal, session))
    (hquiet : heard = .quiet → session.patience goal ≠ .unbounded) :
    (session.hear goal heard).Lands (Welcomes waits) := by
  cases heard with
  | event event =>
      cases goal with
      | boot next => exact take_awaitBoot_lands hlistens h.1 event h.2
      | wait limit =>
          obtain ⟨hawaits, rfl⟩ := h
          apply take_lands hlistens.1 hlistens.2 hawaits event
          intro session' hsettled hawaits' _
          exact awaitQuiet_lands hsettled hawaits'
      | poll next =>
          obtain ⟨hattentive, rfl, request, text, rfl⟩ := h
          apply take_lands hlistens.1 hlistens.2 hattentive.awaits event
          intro session' hsettled hawaits' haccepts
          exact awaitSilence_lands hsettled ⟨hawaits', haccepts hattentive.accepts⟩ request text
  | quiet =>
      cases goal with
      | boot next => exact letGo_fail_lands session _ (by rintro ⟨⟩)
      | wait limit =>
          obtain ⟨-, rfl⟩ := h
          exact absurd rfl (hquiet rfl)
      | poll next =>
          obtain ⟨hattentive, rfl, request, text, rfl⟩ := h
          exact afterPoll_lands hlistens.1 hattentive request text
  | gone => exact letGo_fail_lands session _ (by rintro ⟨⟩)

end Session
end ScriptConsole
