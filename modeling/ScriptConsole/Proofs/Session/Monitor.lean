import ScriptConsole.Proofs.Session.Course

/-!
Following a session note by note. A monitor knows something of the notes so far; if every move
that a session makes passes it, then so does everything that a session comes to, whatever answers
its deeds get and whatever it hears.
-/

namespace ScriptConsole

/-- What is known after a note, which deeds pass, and how the session is to stand when it comes to
rest or listens. -/
structure Monitor (ρ : Type) where
  note : ρ → Note → ρ
  May : ρ → Done → Prop
  Stands : ρ → Turn × Session → Prop

variable {ρ : Type} {m : Monitor ρ} {r : ρ}

/-- The move passes, however its deeds are answered. -/
def Move.Passes (m : Monitor ρ) : Move → ρ → Prop
  | .done stand, r => m.Stands r stand
  | .write content next, r => ∀ answer, m.May r (.wrote content answer) ∧
      Passes m (next answer) (m.note r (.did (.wrote content answer)))
  | .spawn next, r => ∀ answer, m.May r (.spawned answer) ∧
      Passes m (next answer) (m.note r (.did (.spawned answer)))
  | .post worker command next, r => ∀ answer, m.May r (.posted worker command answer) ∧
      Passes m (next answer) (m.note r (.did (.posted worker command answer)))
  | .terminate worker next, r => m.May r (.terminated worker) ∧
      Passes m (next ()) (m.note r (.did (.terminated worker)))
  | .discard worker next, r => m.May r (.discarded worker) ∧
      Passes m (next ()) (m.note r (.did (.discarded worker)))

theorem Move.Passes.did {move next : Move} {done : Done} (h : move.Passes m r)
    (hgoes : move.Goes done next) : m.May r done ∧ next.Passes m (m.note r (.did done)) := by
  cases hgoes with
  | write answer => exact h answer
  | spawn answer => exact h answer
  | post answer => exact h answer
  | terminate => exact h
  | discard => exact h

/-- What follows when the worker is let go of passes if it does so with and without a worker. -/
theorem Session.letGo_passes {session : Session} {reason : Pending → TransportError}
    {next : Session → Move}
    (hdead : session.live = none → (next (session.abandon reason)).Passes m r)
    (hlive : ∀ worker, session.live = some worker → m.May r (.terminated worker) ∧
      (next (session.abandon reason)).Passes m (m.note r (.did (.terminated worker)))) :
    Move.Passes m (session.letGo reason >>= next) r := by
  rw [Session.letGo]
  cases hheld : session.live with
  | none => exact hdead hheld
  | some worker => exact hlive worker hheld

/-! ### From a move to a reply -/

/-- The session makes this move and, after these notes, returns a result. -/
inductive Move.Returns : Move → List Note → Except SessionError Reply → Session → Prop where
  | reply (result : Except SessionError Reply) (session : Session) :
      Returns (.done (.reply result, session)) [] result session
  | deed {move next : Move} {done : Done} {notes : List Note}
      {result : Except SessionError Reply} {session : Session} (hgoes : move.Goes done next)
      (h : Returns next notes result session) : Returns move (.did done :: notes) result session
  | hear {session last : Session} {goal : Listening} {worker : Nat} {notes : List Note}
      {result : Except SessionError Reply} (hlive : session.live = some worker) (heard : Heard)
      (h : Returns (session.hear goal heard) notes result last) :
      Returns (.done (.listen goal, session)) (.heard worker heard :: notes) result last

/-- A monitor that every hearing passes is passed by every way to a reply. -/
theorem Move.Returns.passes {move : Move} {notes : List Note} {result : Except SessionError Reply}
    {session : Session} (h : move.Returns notes result session)
    (hhear : ∀ (r : ρ) (session : Session) (goal : Listening) (worker : Nat) (heard : Heard),
      m.Stands r (.listen goal, session) → session.live = some worker →
        (session.hear goal heard).Passes m (m.note r (.heard worker heard)))
    (hpasses : move.Passes m r) :
    m.Stands (notes.foldl m.note r) (.reply result, session) := by
  induction h generalizing r with
  | reply result session => exact hpasses
  | deed hgoes h ih => exact ih (hpasses.did hgoes).2
  | hear hlive heard h ih => exact ih (hhear r _ _ _ heard hpasses hlive)

theorem Session.Course.returns {config : Config} {url : String} {log notes : List Note}
    {move : Move} {result : Except SessionError Reply} {session : Session}
    (h : Course config url log (.ofMove move)) (hreturns : move.Returns notes result session) :
    ∃ log, Course config url log (.resting session) := by
  induction hreturns generalizing log with
  | reply result session => exact ⟨log, h⟩
  | @deed move next done notes result session hgoes hreturns ih =>
      have hacting : Stage.ofMove move = .acting move := by
        cases hgoes <;> rfl
      rw [hacting] at h
      exact ih (h.step (.deed hgoes))
  | hear hlive heard hreturns ih => exact ih (h.step (.hear hlive heard))

end ScriptConsole
