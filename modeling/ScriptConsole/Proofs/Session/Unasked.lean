import ScriptConsole.Proofs.Session.Failures

/-!
Sessions that wait for no line. Whatever is asked of such a session and however its surroundings
answer, it does not try to write a line before it has heard a new request for one.
-/

namespace ScriptConsole

/-- A line of input was written, or it was tried. -/
def Note.TriesLine : Note → Prop
  | .did (.wrote (.line _ _ _) _) => True
  | _ => False

/-- A request for a line was heard. -/
def Note.HearsRequest : Note → Prop
  | .heard _ (.event (.input _ _)) => True
  | _ => False

/-- From the first stage a session can come to the second one with these notes. -/
inductive Stage.Leads : Stage → List Note → Stage → Prop where
  | here (stage : Stage) : Leads stage [] stage
  | step {stage next stage' : Stage} {notes more : List Note} (hgoes : stage.Goes notes next)
      (h : Leads next more stage') : Leads stage (notes ++ more) stage'

namespace Session

/-- The session waits for no line and hears its worker out for none. -/
def Unasked : Turn × Session → Prop
  | (.listen (.poll (.line _ _)), _) | (.listen (.poll (.deliver _ _)), _) => False
  | (_, session) => session.isAwaitingInput = false

/-- A monitor that lets no line pass. -/
def silence : Monitor Unit where
  note _ _ := ()
  May _ done := ¬ Note.TriesLine (.did done)
  Stands _ stand := Unasked stand

variable {session : Session}

theorem abandon_unasked (session : Session) (reason : Pending → TransportError) :
    (session.abandon reason).isAwaitingInput = false := by
  rw [abandon]
  split <;> rfl

theorem printRejection_unasked (h : session.isAwaitingInput = false) (pending : Option Pending) :
    (session.printRejection pending).isAwaitingInput = false := by
  cases pending with
  | none => exact h
  | some pending => exact h

theorem takeRun_unasked (h : session.isAwaitingInput = false) (success : Bool)
    (output error : Option String) :
    (session.takeRun success output error).isAwaitingInput = false := by
  cases hpending : session.isRunPending with
  | true =>
      obtain ⟨transcript, lastRun, htaken⟩ := takeRun_pending hpending success output error
      rw [htaken]
      rfl
  | false =>
      rw [takeRun_idle hpending]
      exact h

/-! ### Moves -/

theorem letGo_silent {reason : Pending → TransportError} {next : Session → Move}
    (hnext : (next (session.abandon reason)).Passes silence ()) :
    Move.Passes silence (session.letGo reason >>= next) () :=
  letGo_passes (fun _ => hnext) fun _ _ => ⟨id, hnext⟩

theorem giveUp_silent (session : Session) (reason : Pending → TransportError)
    (error : SessionError) :
    Move.Passes silence (do (← session.letGo reason).fail error) () :=
  letGo_silent (session.abandon_unasked reason)

theorem postRun_silent (h : session.isAwaitingInput = false) (code : String) (result : Reply) :
    (session.postRun code result).Passes silence () := by
  cases hlive : session.live with
  | none =>
      rw [postRun, hlive]
      exact h
  | some worker =>
      rw [postRun_of_live hlive]
      rintro (cause | ⟨⟨⟩⟩)
      · exact ⟨id, giveUp_silent session _ _⟩
      · exact ⟨id, h⟩

theorem awaitBoot_silent (h : session.isAwaitingInput = false) (next : AfterBoot) :
    (session.awaitBoot next).Passes silence () := by
  rw [awaitBoot]
  split
  · rw [listen]
    split
    · exact h
    · exact h
  · split
    · cases next with
      | reply => exact h
      | run code result => exact postRun_silent h code result
    · exact h

theorem spawn_silent (h : session.isAwaitingInput = false) (next : AfterBoot) :
    (session.spawn next).Passes silence () := by
  rintro (cause | ⟨⟨⟩⟩)
  · exact ⟨id, h⟩
  · refine ⟨id, ?_⟩
    rintro (cause | ⟨⟨⟩⟩)
    · exact ⟨id, id, h⟩
    · have hboots : (({ session with spawned := session.spawned + 1 } : Session).booting
          session.spawned).isAwaitingInput = false := h
      exact ⟨id, awaitBoot_silent hboots next⟩

theorem launch_silent (session : Session) (next : AfterBoot) :
    (session.launch next).Passes silence () := by
  have hfresh : ({ (session.abandon .terminated).printRejection session.pending with
      bootError := none } : Session).isAwaitingInput = false :=
    printRejection_unasked (session.abandon_unasked .terminated) session.pending
  refine letGo_silent ?_
  rintro (cause | ⟨⟨⟩⟩)
  · exact ⟨id, hfresh⟩
  · exact ⟨id, spawn_silent hfresh next⟩

theorem submit_silent (h : session.isAwaitingInput = false) (code : String) (result : Reply) :
    (session.submit code result).Passes silence () := by
  rw [submit]
  split
  · exact h
  · split
    · exact postRun_silent h code result
    · exact launch_silent session _

theorem takeLine_silent (h : session.isAwaitingInput = false) (text : String) :
    (session.takeLine text).Passes silence () := by
  have hquiet := push_awaitingInput session.statements text
  have hnone := push_of_not_awaiting h text
  rw [takeLine]
  generalize session.statements.push text = pushed at hquiet hnone ⊢
  obtain ⟨outcome, statements⟩ := pushed
  cases outcome with
  | statement source =>
      apply submit_silent
      exact hquiet
  | input line => exact absurd rfl (hnone line)
  | ignored => exact hquiet
  | incomplete => exact hquiet

theorem awaitSilence_silent (h : session.isAwaitingInput = false) :
    (session.awaitSilence .reply).Passes silence () := by
  rw [awaitSilence]
  split
  · exact h
  · rw [listen]
    split
    · exact h
    · exact h

theorem awaitQuiet_silent (h : session.isAwaitingInput = false) (limit : Option Duration) :
    (session.awaitQuiet limit).Passes silence () := by
  rw [awaitQuiet]
  split
  · exact h
  · split
    · exact h
    · rw [listen]
      split
      · exact h
      · exact h

theorem call_silent (h : session.isAwaitingInput = false) (call : Call) :
    (session.call call).Passes silence () := by
  cases call with
  | start => exact launch_silent session _
  | submit code => exact submit_silent h code _
  | line text =>
      rw [Session.call, line, h]
      split
      · next hrun => cases hrun
      · split
        · exact h
        · exact takeLine_silent h text
  | deliver text =>
      rw [Session.call, deliver, h]
      exact h
  | poll => exact awaitSilence_silent h
  | wait limit => exact awaitQuiet_silent h limit
  | runSource name text =>
      cases text with
      | error cause => exact h
      | ok code => exact launch_silent _ _
  | teardown =>
      refine letGo_silent fun answer => ?_
      exact ⟨id, session.abandon_unasked .terminated⟩

/-! ### What is heard -/

theorem take_silent (h : session.isAwaitingInput = false) {worker : Nat} {event : Event}
    (hother : ¬ Note.HearsRequest (.heard worker (.event event))) {next : Session → Move}
    (hnext : ∀ session : Session, session.isAwaitingInput = false →
      (next session).Passes silence ()) :
    Move.Passes silence (session.take event >>= next) () := by
  cases event with
  | init success error =>
      rw [Session.take, takeBoot]
      split
      · split
        · exact hnext _ h
        · exact letGo_silent (hnext _ (abandon_unasked _ _))
      · exact hnext _ h
  | run success output error => exact hnext _ (takeRun_unasked h success output error)
  | stdout text => exact hnext _ h
  | stderr text => exact hnext _ h
  | input request prompt => exact absurd trivial hother

theorem hear_silent {goal : Listening} (h : Unasked (.listen goal, session)) {worker : Nat}
    {heard : Heard} (hother : ¬ Note.HearsRequest (.heard worker heard)) :
    (session.hear goal heard).Passes silence () := by
  cases heard with
  | event event =>
      cases goal with
      | boot next => exact take_silent h hother fun _ h => awaitBoot_silent h next
      | wait limit => exact take_silent h hother fun _ h => awaitQuiet_silent h limit
      | poll next =>
          cases next with
          | reply => exact take_silent h hother fun _ h => awaitSilence_silent h
          | line => exact h.elim
          | deliver => exact h.elim
  | quiet =>
      cases goal with
      | boot next => exact giveUp_silent session _ _
      | wait limit => exact h
      | poll next =>
          cases next with
          | reply => exact h
          | line => exact h.elim
          | deliver => exact h.elim
  | gone => exact giveUp_silent session _ _

end Session

/-! ### Stages -/

namespace Stage

/-- Where a session is that waits for no line. -/
def Unasked : Stage → Prop
  | resting session => session.isAwaitingInput = false
  | acting move => move.Passes Session.silence ()
  | listening session goal => Session.Unasked (.listen goal, session)

theorem unasked_ofMove {move : Move} (h : move.Passes Session.silence ()) :
    (ofMove move).Unasked := by
  cases move with
  | done stand =>
      obtain ⟨turn, session⟩ := stand
      cases turn <;> exact h
  | _ => exact h

theorem notes_tries_no_line (move : Move) : ∀ note ∈ notes move, ¬ note.TriesLine := by
  cases move with
  | done stand =>
      obtain ⟨turn, session⟩ := stand
      cases turn <;> simp [notes, Note.TriesLine]
  | _ => simp [notes]

theorem Goes.unasked {stage stage' : Stage} {notes : List Note} (hgoes : stage.Goes notes stage')
    (h : stage.Unasked) (hother : ∀ note ∈ notes, ¬ note.HearsRequest) :
    stage'.Unasked ∧ ∀ note ∈ notes, ¬ note.TriesLine := by
  cases hgoes with
  | call session call =>
      refine ⟨unasked_ofMove (Session.call_silent h call), ?_⟩
      exact List.forall_mem_cons.mpr ⟨id, notes_tries_no_line _⟩
  | deed hgoes =>
      obtain ⟨hmay, hnext⟩ := Move.Passes.did h hgoes
      refine ⟨unasked_ofMove hnext, ?_⟩
      exact List.forall_mem_cons.mpr ⟨hmay, notes_tries_no_line _⟩
  | hear hlive heard =>
      have hheard := (List.forall_mem_cons.mp hother).1
      refine ⟨unasked_ofMove (Session.hear_silent h hheard), ?_⟩
      exact List.forall_mem_cons.mpr ⟨id, notes_tries_no_line _⟩
  | edit session history transcript =>
      refine ⟨h, ?_⟩
      simp [Note.TriesLine]

/-- A session that waits for no line tries to write none before it has heard a request for one. -/
theorem Leads.tries_no_line {stage stage' : Stage} {notes : List Note}
    (hleads : stage.Leads notes stage') (h : stage.Unasked)
    (hother : ∀ note ∈ notes, ¬ note.HearsRequest) : ∀ note ∈ notes, ¬ note.TriesLine := by
  induction hleads with
  | here stage => exact List.forall_mem_nil _
  | step hgoes _ ih =>
      rw [List.forall_mem_append] at hother ⊢
      obtain ⟨hnext, htries⟩ := hgoes.unasked h hother.1
      exact ⟨htries, ih hnext hother.2⟩

end Stage
end ScriptConsole
