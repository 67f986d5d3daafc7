import ScriptConsole.Proofs.Session.Course
import ScriptConsole.Proofs.Session.Turns

/-!
What holds of a session whenever it rests, however its surroundings answer its deeds and whatever
it hears: it is ready just while it holds a worker, it waits for a line only while a request is
open, and it has let go of every worker but the one that it holds.
-/

namespace ScriptConsole

namespace Session

/-- What holds of the requests of a session, also while its worker boots. -/
structure Orderly (session : Session) : Prop where
  awaiting : session.isAwaitingInput = true → session.request ≠ none
  request : session.request ≠ none → session.live ≠ none

/-- What holds of a session while nothing is under way. -/
structure Settled (session : Session) : Prop extends Orderly session where
  booted : session.phase ≠ .initializing ∧ session.pending ≠ some .init
  ready : session.phase = .ready ↔ session.live ≠ none
  run : session.pending = some .run → session.phase = .ready

/-- What holds of a session while its worker boots. -/
structure Boots (session : Session) : Prop extends Orderly session where
  pending : session.pending = some .init
  live : session.live ≠ none

/-- What holds of a session that listens. -/
def Listens (session : Session) : Listening → Prop
  | .boot _ => session.Boots
  | _ => session.Settled ∧ session.live ≠ none

end Session

/-- The workers of a session. -/
structure Roster where
  /-- So many were spawned by now. -/
  spawned : Nat
  /-- This one was not let go of. -/
  held : Option Nat

namespace Roster

def did (r : Roster) : Done → Roster
  | .spawned (.ok _) => ⟨r.spawned + 1, some r.spawned⟩
  | .terminated _ | .discarded _ => { r with held := none }
  | _ => r

/-- A session spawns a worker only if it holds none, and lets go only of the one that it holds. -/
def May (r : Roster) : Done → Prop
  | .spawned _ => r.held = none
  | .terminated worker | .discarded worker => r.held = some worker
  | _ => True

end Roster

def Session.roster (session : Session) : Roster :=
  ⟨session.spawned, session.live⟩

/-- The session stands well when it comes to rest or listens. -/
def Session.StandsWell : Turn × Session → Prop
  | (.reply _, session) => session.Settled
  | (.listen goal, session) => session.Listens goal

/-- However the deeds are answered, the session does to its workers only what it may, and stands
well when it comes to rest or listens. -/
def Move.Settles : Move → Roster → Prop
  | .done stand, r => stand.2.roster = r ∧ Session.StandsWell stand
  | .write content next, r => ∀ answer, Settles (next answer) (r.did (.wrote content answer))
  | .spawn next, r => ∀ answer, r.May (.spawned answer) ∧
      Settles (next answer) (r.did (.spawned answer))
  | .post worker command next, r => ∀ answer,
      Settles (next answer) (r.did (.posted worker command answer))
  | .terminate worker next, r => r.May (.terminated worker) ∧
      Settles (next ()) (r.did (.terminated worker))
  | .discard worker next, r => r.May (.discarded worker) ∧
      Settles (next ()) (r.did (.discarded worker))

theorem Move.Settles.did {move next : Move} {r : Roster} {done : Done} (h : move.Settles r)
    (hgoes : move.Goes done next) : r.May done ∧ next.Settles (r.did done) := by
  cases hgoes with
  | write answer => exact ⟨trivial, h answer⟩
  | spawn answer => exact h answer
  | post answer => exact ⟨trivial, h answer⟩
  | terminate => exact h
  | discard => exact h

namespace Session

variable {session : Session}

/-! ### Sessions that stand well -/

theorem abandon_settled (session : Session) (reason : Pending → TransportError) :
    (session.abandon reason).Settled ∧
      (session.abandon reason).roster = ⟨session.spawned, none⟩ := by
  rw [abandon]
  split
  · exact ⟨⟨⟨by rintro ⟨⟩, fun h => absurd rfl h⟩, ⟨by rintro ⟨⟩, by rintro ⟨⟩⟩,
      ⟨by rintro ⟨⟩, fun h => absurd rfl h⟩, by rintro ⟨⟩⟩, rfl⟩
  · exact ⟨⟨⟨by rintro ⟨⟩, fun h => absurd rfl h⟩, ⟨by rintro ⟨⟩, by rintro ⟨⟩⟩,
      ⟨by rintro ⟨⟩, fun h => absurd rfl h⟩, by rintro ⟨⟩⟩, rfl⟩

theorem Settled.alike (h : session.Settled) {other : Session}
    (hstatements : other.statements = session.statements)
    (hrequest : other.request = session.request) (hlive : other.live = session.live)
    (hphase : other.phase = session.phase) (hpending : other.pending = session.pending) :
    other.Settled := by
  have hawaiting : other.isAwaitingInput = session.isAwaitingInput :=
    congrArg StatementBuffer.awaitingInput hstatements
  refine ⟨⟨?_, ?_⟩, ?_, ?_, ?_⟩
  · rw [hawaiting, hrequest]
    exact h.awaiting
  · rw [hrequest, hlive]
    exact h.request
  · rw [hphase, hpending]
    exact h.booted
  · rw [hphase, hlive]
    exact h.ready
  · rw [hpending, hphase]
    exact h.run

theorem Settled.print (h : session.Settled) (kind : EntryKind) (text : String) :
    (session.print kind text).Settled :=
  h.alike rfl rfl rfl rfl rfl

theorem Boots.print (h : session.Boots) (kind : EntryKind) (text : String) :
    (session.print kind text).Boots :=
  ⟨⟨h.awaiting, h.request⟩, h.pending, h.live⟩

theorem Settled.printSome (h : session.Settled) (kind : EntryKind) (text : Option String) :
    (session.printSome kind text).Settled ∧
      (session.printSome kind text).roster = session.roster := by
  obtain ⟨transcript, hprint⟩ := session.exists_printSome kind text
  rw [hprint]
  exact ⟨h.alike rfl rfl rfl rfl rfl, rfl⟩

theorem Settled.printRejection (h : session.Settled) (pending : Option Pending) :
    (session.printRejection pending).Settled ∧
      (session.printRejection pending).roster = session.roster := by
  cases pending with
  | none => exact ⟨h, rfl⟩
  | some pending => exact ⟨h.print .error _, rfl⟩

theorem Settled.withStatements (h : session.Settled) {statements : StatementBuffer}
    (hquiet : statements.awaitingInput = false) : { session with statements }.Settled :=
  ⟨⟨fun hawaiting => absurd (hquiet.symm.trans hawaiting) (by simp), h.request⟩, h.booted, h.ready,
    h.run⟩

theorem push_awaitingInput (statements : StatementBuffer) (text : String) :
    (statements.push text).2.awaitingInput = false := by
  rw [StatementBuffer.push]
  split
  · rfl
  · next hquiet =>
    rw [Bool.not_eq_true] at hquiet
    split
    · exact hquiet
    · dsimp only
      split
      · exact hquiet
      · rfl

/-! ### Steps that moves are made of -/

variable {r : Roster}

theorem Settled.fail (h : session.Settled) (hroster : session.roster = r) (error : SessionError) :
    (session.fail error).Settles r :=
  ⟨hroster, h⟩

theorem Settled.reply (h : session.Settled) (hroster : session.roster = r) (reply : Reply) :
    (session.reply reply).Settles r :=
  ⟨hroster, h⟩

theorem Settled.listen (h : session.Settled) {goal : Listening}
    (hgoal : session.live ≠ none → session.Listens goal) :
    (session.listen goal).Settles session.roster := by
  rw [Session.listen]
  cases hlive : session.live with
  | none => exact h.fail rfl _
  | some worker => exact ⟨rfl, hgoal (by rw [hlive]; rintro ⟨⟩)⟩

theorem letGo_bind {reason : Pending → TransportError} {next : Session → Move}
    (hnext : (next (session.abandon reason)).Settles ⟨session.spawned, none⟩) :
    Move.Settles (session.letGo reason >>= next) session.roster := by
  rw [Session.letGo]
  cases hlive : session.live with
  | none =>
      rw [roster, hlive]
      exact hnext
  | some worker => exact ⟨hlive, hnext⟩

theorem letGo_fail (session : Session) (reason : Pending → TransportError) (error : SessionError) :
    Move.Settles (do (← session.letGo reason).fail error) session.roster := by
  obtain ⟨hsettled, hroster⟩ := session.abandon_settled reason
  exact letGo_bind (hsettled.fail hroster error)

theorem postRun_of_live {worker : Nat} (hlive : session.live = some worker) (code : String)
    (result : Reply) : session.postRun code result = .post worker (.run code) fun
      | .error cause => do
          (← session.letGo fun _ => .disconnected).fail (.transport cause)
      | .ok () =>
          ({ session with pending := some .run, lastRun := none } : Session).reply result := by
  rw [postRun]
  split
  · next hnone => cases hnone.symm.trans hlive
  · next holder hholder =>
      obtain rfl := Option.some.inj (hholder.symm.trans hlive)
      refine congrArg (Deed.post holder (.run code)) (funext fun answer => ?_)
      cases answer <;> rfl

theorem Settled.postRun (h : session.Settled) (code : String) (result : Reply) :
    (session.postRun code result).Settles session.roster := by
  by_cases hlive : session.live = none
  · rw [Session.postRun, hlive]
    exact h.fail rfl _
  · obtain ⟨worker, hworker⟩ := Option.ne_none_iff_exists'.mp hlive
    rw [postRun_of_live hworker]
    rintro (cause | _)
    · exact letGo_fail session _ _
    · exact ⟨rfl, ⟨h.awaiting, h.request⟩, ⟨h.booted.1, by rintro ⟨⟩⟩, h.ready,
        fun _ => h.ready.mpr hlive⟩

theorem Settled.afterBoot (h : session.Settled) (next : AfterBoot) :
    (session.afterBoot next).Settles session.roster := by
  cases next with
  | reply => exact h.reply rfl .done
  | run code result => exact h.postRun code result

theorem Boots.awaitBoot (h : session.Boots) (next : AfterBoot) :
    (session.awaitBoot next).Settles session.roster := by
  obtain ⟨worker, hlive⟩ := Option.ne_none_iff_exists'.mp h.live
  rw [Session.awaitBoot, if_pos h.pending, Session.listen, hlive]
  exact ⟨rfl, h⟩

theorem Settled.awaitBoot (h : session.Settled) (next : AfterBoot) :
    (session.awaitBoot next).Settles session.roster := by
  rw [Session.awaitBoot, if_neg h.booted.2]
  split
  · exact h.afterBoot next
  · exact h.fail rfl _

theorem Settled.spawn {spawned : Nat} (h : session.Settled)
    (hroster : session.roster = ⟨spawned, none⟩) (next : AfterBoot) :
    (session.spawn next).Settles ⟨spawned, none⟩ := by
  obtain ⟨rfl, hlive⟩ : session.spawned = spawned ∧ session.live = none := by
    rw [roster, Roster.mk.injEq] at hroster
    exact hroster
  rintro (cause | _)
  · exact ⟨rfl, h.fail hroster _⟩
  · refine ⟨rfl, ?_⟩
    rintro (cause | _)
    · have hagain : ({ session with spawned := session.spawned + 1 } : Session).Settled :=
        h.alike rfl rfl rfl rfl rfl
      exact ⟨rfl, hagain.fail (congrArg (Roster.mk _) hlive) _⟩
    · have hboots : (({ session with spawned := session.spawned + 1 } : Session).booting
          session.spawned).Boots :=
        ⟨⟨h.awaiting, fun _ => by rintro ⟨⟩⟩, rfl, by rintro ⟨⟩⟩
      exact hboots.awaitBoot next

theorem launch_settles (session : Session) (next : AfterBoot) :
    (session.launch next).Settles session.roster := by
  obtain ⟨hsettled, hroster⟩ := session.abandon_settled .terminated
  obtain ⟨hshown, hsame⟩ := hsettled.printRejection session.pending
  have hfresh : ({ (session.abandon .terminated).printRejection session.pending with
      bootError := none } : Session).Settled :=
    hshown.alike rfl rfl rfl rfl rfl
  refine letGo_bind ?_
  rintro (cause | _)
  · exact hfresh.fail (hsame.trans hroster) _
  · exact hfresh.spawn (hsame.trans hroster) next

theorem Settled.submit (h : session.Settled) (code : String) (result : Reply) :
    (session.submit code result).Settles session.roster := by
  rw [Session.submit]
  split
  · exact h.fail rfl _
  · split
    · exact h.postRun code result
    · exact launch_settles session _

theorem teardown_settles (session : Session) : session.teardown.Settles session.roster := by
  obtain ⟨hsettled, hroster⟩ := session.abandon_settled .terminated
  refine letGo_bind ?_
  intro answer
  exact hsettled.reply hroster _

/-! ### Typed lines -/

theorem Settled.writeInput (h : session.Settled) (hquiet : session.isAwaitingInput = false)
    (text : String) (result : Reply) : (session.writeInput text result).Settles session.roster := by
  rw [Session.writeInput]
  cases session.request with
  | none => exact h.fail rfl _
  | some request =>
      rintro (cause | _)
      · exact h.fail rfl _
      · refine ⟨rfl, ⟨?_, fun hnone => absurd rfl hnone⟩, h.booted, h.ready, h.run⟩
        exact fun hawaiting => absurd (hquiet.symm.trans hawaiting) (by simp)

theorem Settled.takeLine (h : session.Settled) (text : String) :
    (session.takeLine text).Settles session.roster := by
  have hquiet := push_awaitingInput session.statements text
  rw [Session.takeLine]
  generalize session.statements.push text = pushed at hquiet ⊢
  obtain ⟨outcome, statements⟩ := pushed
  have hnext := h.withStatements hquiet
  cases outcome with
  | statement source =>
      have hrecorded : ({ session with
          statements
          history := session.history.push (String.ofList (Text.trim source.toList)) } :
            Session).Settled :=
        hnext.alike rfl rfl rfl rfl rfl
      exact (hrecorded.print .input _).submit source _
  | input line => exact hnext.writeInput hquiet line _
  | ignored => exact hnext.reply rfl _
  | incomplete => exact hnext.reply rfl _

theorem Settled.afterPoll (h : session.Settled) (next : AfterPoll) :
    (session.afterPoll next).Settles session.roster := by
  cases next with
  | reply => exact h.reply rfl .done
  | line request text =>
      rw [Session.afterPoll]
      split
      · exact h.takeLine text
      · exact h.fail rfl _
  | deliver request text =>
      rw [Session.afterPoll]
      split
      · have hquiet : (session.statements.setAwaitingInput false).awaitingInput = false := rfl
        exact (h.withStatements hquiet).writeInput hquiet text _
      · exact h.fail rfl _

theorem Settled.awaitSilence (h : session.Settled) (next : AfterPoll) :
    (session.awaitSilence next).Settles session.roster := by
  rw [Session.awaitSilence]
  split
  · exact h.afterPoll next
  · exact h.listen fun hlive => ⟨h, hlive⟩

theorem Settled.awaitQuiet (h : session.Settled) (limit : Option Duration) :
    (session.awaitQuiet limit).Settles session.roster := by
  have hannounced : ({ session with announce := false } : Session).Settled :=
    h.alike rfl rfl rfl rfl rfl
  rw [Session.awaitQuiet]
  split
  · exact hannounced.reply rfl _
  · split
    · exact h.reply rfl _
    · exact h.listen fun hlive => ⟨h, hlive⟩

/-! ### Calls -/

theorem Settled.call (h : session.Settled) (call : Call) :
    (session.call call).Settles session.roster := by
  cases call with
  | start => exact launch_settles session _
  | submit code => exact h.submit code _
  | line text =>
      rw [Session.call, Session.line]
      split
      · exact h.awaitSilence _
      · split
        · exact h.fail rfl _
        · exact h.takeLine text
  | deliver text =>
      rw [Session.call, Session.deliver]
      split
      · exact h.awaitSilence _
      · exact h.fail rfl _
  | poll => exact h.awaitSilence _
  | wait limit => exact h.awaitQuiet limit
  | runSource name text =>
      cases text with
      | error cause => exact h.fail rfl _
      | ok code => exact launch_settles _ _
  | teardown => exact teardown_settles session

/-! ### What is heard -/

theorem Settled.openRequest (h : session.Settled) (hlive : session.live ≠ none) (request : UInt64)
    (prompt : Option String) : (session.openRequest request prompt).Settled ∧
      (session.openRequest request prompt).roster = session.roster := by
  obtain ⟨transcript, hprint⟩ := session.exists_printSome .output prompt
  rw [Session.openRequest, hprint]
  exact ⟨⟨⟨fun _ => by rintro ⟨⟩, fun _ => hlive⟩, h.booted, h.ready, h.run⟩, rfl⟩

theorem Boots.openRequest (h : session.Boots) (request : UInt64) (prompt : Option String) :
    (session.openRequest request prompt).Boots ∧
      (session.openRequest request prompt).roster = session.roster := by
  obtain ⟨transcript, hprint⟩ := session.exists_printSome .output prompt
  rw [Session.openRequest, hprint]
  exact ⟨⟨⟨fun _ => by rintro ⟨⟩, fun _ => h.live⟩, h.pending, h.live⟩, rfl⟩

theorem Settled.takeRun (h : session.Settled) (success : Bool) (output error : Option String) :
    (session.takeRun success output error).Settled ∧
      (session.takeRun success output error).roster = session.roster := by
  have hended : ({ session.closeRequest with pending := none } : Session).Settled :=
    ⟨⟨by rintro ⟨⟩, fun hnone => absurd rfl hnone⟩, ⟨h.booted.1, by rintro ⟨⟩⟩, h.ready,
      by rintro ⟨⟩⟩
  rw [Session.takeRun]
  split
  · cases success with
    | true =>
        obtain ⟨hshown, hroster⟩ := hended.printSome .output output
        exact ⟨hshown.alike rfl rfl rfl rfl rfl, hroster⟩
    | false =>
        have hshown := hended.print .error (error.getD unknownError)
        exact ⟨hshown.alike rfl rfl rfl rfl rfl, rfl⟩
  · exact ⟨h, rfl⟩

theorem Settled.take (h : session.Settled) (hlive : session.live ≠ none) (event : Event)
    {next : Session → Move}
    (hnext : ∀ session' : Session, session'.Settled → session'.roster = session.roster →
      (next session').Settles session.roster) :
    Move.Settles (session.take event >>= next) session.roster := by
  cases event with
  | init success error =>
      rw [Session.take, takeBoot, if_neg h.booted.2]
      exact hnext session h rfl
  | run success output error =>
      obtain ⟨hsettled, hroster⟩ := h.takeRun success output error
      exact hnext _ hsettled hroster
  | stdout text => exact hnext _ (h.print .output text) rfl
  | stderr text => exact hnext _ (h.print .error text) rfl
  | input request prompt =>
      obtain ⟨hsettled, hroster⟩ := h.openRequest hlive request prompt
      exact fun _ => hnext _ hsettled hroster

theorem Boots.take (h : session.Boots) (event : Event) (next : AfterBoot) :
    Move.Settles (do (← session.take event).awaitBoot next) session.roster := by
  cases event with
  | init success error =>
      rw [Session.take, takeBoot, if_pos h.pending]
      cases success with
      | true =>
          have hbooted : ({ session with pending := none, phase := .ready } : Session).Settled :=
            ⟨⟨h.awaiting, h.request⟩, ⟨by rintro ⟨⟩, by rintro ⟨⟩⟩, ⟨fun _ => h.live, fun _ => rfl⟩,
              by rintro ⟨⟩⟩
          exact hbooted.awaitBoot next
      | false =>
          let failed : Session :=
            { session with pending := none, bootError := some (error.getD unknownError) }
          obtain ⟨hsettled, hroster⟩ := failed.abandon_settled .terminated
          have hnext := hsettled.awaitBoot next
          rw [hroster] at hnext
          exact letGo_bind hnext
  | run success output error =>
      have hother : session.isRunPending = false := by
        rw [isRunPending, h.pending]
        rfl
      have hsame : session.takeRun success output error = session := by
        rw [takeRun, hother]
        rfl
      show Move.Settles ((session.takeRun success output error).awaitBoot next) _
      rw [hsame]
      exact h.awaitBoot next
  | stdout text => exact (h.print .output text).awaitBoot next
  | stderr text => exact (h.print .error text).awaitBoot next
  | input request prompt =>
      obtain ⟨hboots, hroster⟩ := h.openRequest request prompt
      exact fun _ => hroster ▸ hboots.awaitBoot next

/-- Whatever a session hears, it stands well again when it comes to rest or listens. -/
theorem Listens.hear {goal : Listening} (h : session.Listens goal) (heard : Heard) :
    (session.hear goal heard).Settles session.roster := by
  cases heard with
  | event event =>
      cases goal with
      | boot next => exact Boots.take h event next
      | wait limit =>
          refine h.1.take h.2 event fun session' hsettled hroster => ?_
          exact hroster ▸ hsettled.awaitQuiet limit
      | poll next =>
          refine h.1.take h.2 event fun session' hsettled hroster => ?_
          exact hroster ▸ hsettled.awaitSilence next
  | quiet =>
      cases goal with
      | boot next => exact letGo_fail session _ _
      | wait limit => exact h.1.reply rfl _
      | poll next => exact h.1.afterPoll next
  | gone => exact letGo_fail session _ _

end Session

/-! ### Courses -/

namespace Stage

def Settles : Stage → Roster → Prop
  | resting session, r => session.roster = r ∧ session.Settled
  | acting move, r => move.Settles r
  | listening session goal, r => session.roster = r ∧ session.Listens goal

theorem settles_ofMove {move : Move} {r : Roster} (h : move.Settles r) :
    (ofMove move).Settles r := by
  cases move with
  | done stand =>
      obtain ⟨turn, session⟩ := stand
      cases turn <;> exact h
  | _ => exact h

end Stage

/-! ### Logs -/

/-- A worker was spawned. -/
def Note.IsSpawn (note : Note) : Prop :=
  note = .did (.spawned (.ok ()))

instance : DecidablePred Note.IsSpawn
  | .did (.spawned (.ok ())) => .isTrue rfl
  | .did (.spawned (.error _)) | .did (.wrote _ _) | .did (.posted _ _ _) | .did (.terminated _)
  | .did (.discarded _) | .called _ | .heard _ _ | .replied _ | .showed _ | .said _ _
  | .ended _ _ _ => .isFalse (by rintro ⟨⟩)

/-- A worker was spawned or let go of. -/
def Note.Moves (note : Note) : Prop :=
  note.IsSpawn ∨ ∃ worker, note = .did (.terminated worker) ∨ note = .did (.discarded worker)

namespace Session

/-- How many workers were spawned. -/
def spawns (log : List Note) : Nat :=
  log.countP Note.IsSpawn

/-- The session has let go of the worker. -/
def LetGo (log : List Note) (worker : Nat) : Prop :=
  .did (.terminated worker) ∈ log ∨ .did (.discarded worker) ∈ log

theorem spawns_append (log more : List Note) : spawns (log ++ more) = spawns log + spawns more :=
  List.countP_append

theorem letGo_append {log more : List Note} {worker : Nat} :
    LetGo (log ++ more) worker ↔ LetGo log worker ∨ LetGo more worker := by
  simp only [LetGo, List.mem_append]
  exact or_or_or_comm

end Session

/-- The notes tell of these workers. -/
structure Roster.Tells (r : Roster) (log : List Note) : Prop where
  spawned : Session.spawns log = r.spawned
  held : ∀ worker, r.held = some worker → worker < r.spawned
  letGo : ∀ worker, Session.LetGo log worker ↔ worker < r.spawned ∧ r.held ≠ some worker

namespace Roster

variable {r : Roster} {log : List Note}

theorem tells_nil : Tells ⟨0, none⟩ [] where
  spawned := rfl
  held := by rintro _ ⟨⟩
  letGo worker := by
    constructor
    · rintro (hnone | hnone) <;> cases hnone
    · rintro ⟨hlt, -⟩
      exact absurd hlt (Nat.not_lt_zero worker)

theorem Tells.append_other (h : r.Tells log) {more : List Note}
    (hother : ∀ note ∈ more, ¬ note.Moves) : r.Tells (log ++ more) := by
  have hspawns : Session.spawns more = 0 := by
    refine List.countP_eq_zero.mpr fun note hnote hspawn => ?_
    exact hother note hnote (.inl (of_decide_eq_true hspawn))
  have hletGo (worker : Nat) : ¬ Session.LetGo more worker := by
    rintro (hnote | hnote)
    · exact hother _ hnote (.inr ⟨worker, .inl rfl⟩)
    · exact hother _ hnote (.inr ⟨worker, .inr rfl⟩)
  constructor
  · rw [Session.spawns_append, hspawns]
    exact h.spawned
  · exact h.held
  · intro worker
    rw [Session.letGo_append, ← h.letGo worker, or_iff_left (hletGo worker)]

theorem Tells.did (h : r.Tells log) {done : Done} (hmay : r.May done) :
    (r.did done).Tells (log ++ [.did done]) := by
  have hletGo (worker : Nat) (hmay : r.held = some worker)
      (hnote : ∀ other, Session.LetGo [.did done] other ↔ other = worker)
      (hspawn : ¬ Note.IsSpawn (.did done)) :
      Tells { r with held := none } (log ++ [.did done]) := by
    refine ⟨?_, by rintro _ ⟨⟩, fun other => ?_⟩
    · rw [Session.spawns_append, Session.spawns, Session.spawns, List.countP_singleton,
        if_neg (by simpa using hspawn)]
      exact h.spawned
    · rw [Session.letGo_append, h.letGo, hnote, hmay]
      have hlt := h.held worker hmay
      constructor
      · rintro (⟨hother, -⟩ | rfl)
        · exact ⟨hother, by rintro ⟨⟩⟩
        · exact ⟨hlt, by rintro ⟨⟩⟩
      · rintro ⟨hother, -⟩
        by_cases hsame : other = worker
        · exact .inr hsame
        · exact .inl ⟨hother, fun hheld => hsame (Option.some.inj hheld).symm⟩
  cases done with
  | wrote content answer =>
      exact h.append_other (by simp [Note.Moves, Note.IsSpawn])
  | spawned answer =>
      cases answer with
      | error cause => exact h.append_other (by simp [Note.Moves, Note.IsSpawn])
      | ok _ =>
          have hnone : r.held = none := hmay
          refine ⟨?_, ?_, fun worker => ?_⟩
          · rw [Session.spawns_append, h.spawned]
            rfl
          · rintro _ ⟨⟩
            exact Nat.lt_succ_self _
          · rw [Session.letGo_append, h.letGo, hnone, Roster.did]
            simp [Session.LetGo]
            omega
  | posted worker command answer =>
      exact h.append_other (by simp [Note.Moves, Note.IsSpawn])
  | terminated worker =>
      exact hletGo worker hmay (by simp [Session.LetGo]) (by rintro ⟨⟩)
  | discarded worker =>
      exact hletGo worker hmay (by simp [Session.LetGo]) (by rintro ⟨⟩)

end Roster

namespace Stage

/-- The first step of a session and what is noted of it keep to the workers that the notes tell
of. -/
theorem Goes.settles {stage stage' : Stage} {log more : List Note} {r : Roster}
    (hgoes : stage.Goes more stage') (hsettles : stage.Settles r) (htells : r.Tells log) :
    ∃ r' : Roster, stage'.Settles r' ∧ r'.Tells (log ++ more) := by
  have hnotes {log : List Note} {r : Roster} (htells : r.Tells log) (move : Move) :
      r.Tells (log ++ notes move) := by
    apply htells.append_other
    cases move with
    | done stand =>
        obtain ⟨turn, session⟩ := stand
        cases turn <;> simp [notes, Note.Moves, Note.IsSpawn]
    | _ => simp [notes]
  cases hgoes with
  | call session call =>
      obtain ⟨rfl, hsettled⟩ := hsettles
      rw [← List.singleton_append, ← List.append_assoc]
      refine ⟨_, settles_ofMove (hsettled.call call), hnotes (htells.append_other ?_) _⟩
      simp [Note.Moves, Note.IsSpawn]
  | @deed move next done hgoes =>
      obtain ⟨hmay, hnext⟩ := Move.Settles.did hsettles hgoes
      rw [← List.singleton_append, ← List.append_assoc]
      exact ⟨_, settles_ofMove hnext, hnotes (htells.did hmay) _⟩
  | @hear session goal worker hlive heard =>
      obtain ⟨rfl, hlistens⟩ := hsettles
      rw [← List.singleton_append, ← List.append_assoc]
      refine ⟨_, settles_ofMove (hlistens.hear heard), hnotes (htells.append_other ?_) _⟩
      simp [Note.Moves, Note.IsSpawn]
  | edit session history transcript =>
      obtain ⟨rfl, h⟩ := hsettles
      refine ⟨_, ⟨rfl, ⟨h.awaiting, h.request⟩, h.booted, h.ready, h.run⟩, htells.append_other ?_⟩
      simp [Note.Moves, Note.IsSpawn]

end Stage

namespace Session

variable {config : Config} {url : String} {log : List Note}

theorem new_settled (config : Config) (url : String) : (new config url).Settled :=
  ⟨⟨by rintro ⟨⟩, fun h => absurd rfl h⟩, ⟨by rintro ⟨⟩, by rintro ⟨⟩⟩,
    ⟨by rintro ⟨⟩, fun h => absurd rfl h⟩, by rintro ⟨⟩⟩

theorem Course.settles {stage : Stage} (h : Course config url log stage) :
    ∃ r : Roster, stage.Settles r ∧ r.Tells log := by
  induction h with
  | new => exact ⟨⟨0, none⟩, ⟨rfl, new_settled config url⟩, Roster.tells_nil⟩
  | step h hgoes ih =>
      obtain ⟨r, hsettles, htells⟩ := ih
      exact hgoes.settles hsettles htells

/-- Whatever the surroundings answer and whatever was heard, after every call the session is not
in the middle of booting; it is ready just if it holds a worker; it is ready while a run is
pending; it waits for a line only while a request is open, and a request is open only while it
holds a worker. It has let go of just those workers that were spawned and that it does not hold. -/
theorem rests_settled {session : Session} (h : Course config url log (.resting session)) :
    (session.phase ≠ .initializing ∧ session.pending ≠ some .init) ∧
    (session.phase = .ready ↔ session.live ≠ none) ∧
    (session.isRunPending = true → session.phase = .ready) ∧
    (session.isAwaitingInput = true → session.request ≠ none) ∧
    (session.request ≠ none → session.live ≠ none) ∧
    (∀ worker, session.live = some worker → worker < spawns log) ∧
    ∀ worker, LetGo log worker ↔ worker < spawns log ∧ session.live ≠ some worker := by
  obtain ⟨r, ⟨rfl, hsettled⟩, htells⟩ := h.settles
  rw [htells.spawned]
  refine ⟨hsettled.booted, hsettled.ready, ?_, hsettled.awaiting, hsettled.request, htells.held,
    htells.letGo⟩
  intro hpending
  exact hsettled.run (beq_iff_eq.mp hpending)

/-- A session that was started twice, and that was asked for a line before its second worker had
booted. -/
theorem rests_settled_after_restart :
    ∃ log session, Course .default "memory://0" log (.resting session) ∧ spawns log = 2 ∧
      session.live = some 1 ∧ session.phase = .ready ∧ session.isAwaitingInput = true ∧
      session.request ≠ none ∧ LetGo log 0 ∧ ¬ LetGo log 1 := by
  have restarted := course_started.step (.call _ .start)
  have stopped := restarted.step (.deed .terminate)
  have emptied := stopped.step (.deed (.write (.ok ())))
  have replaced := emptied.step (.deed (.spawn (.ok ())))
  have posted := replaced.step (.deed (.post (.ok ())))
  have asked := posted.step (.hear rfl (.event (.input 7 none)))
  have reset := asked.step (.deed (.write (.error (.io .busy))))
  have ready := reset.step (.hear rfl (.event .initOk))
  obtain ⟨-, hready, -, hawaiting, -, -, hletGo⟩ := rests_settled ready
  refine ⟨_, _, ready, rfl, rfl, hready.mpr (by rintro ⟨⟩), rfl, hawaiting rfl, ?_, ?_⟩
  · exact (hletGo 0).mpr ⟨by decide, by rintro ⟨⟩⟩
  · exact fun hgone => ((hletGo 1).mp hgone).2 rfl

end Session
end ScriptConsole
