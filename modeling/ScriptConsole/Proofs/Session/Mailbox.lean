import ScriptConsole.Proofs.Session.Failures

/-!
Calls while the worker has said so much and no more. What it has said waits in a mailbox until the
session listens for it, in order; then there is silence, or the session hears that its worker is no
more.
-/

namespace ScriptConsole

/-- What the worker of a session has said and the session has not heard yet. -/
structure Mailbox where
  events : List Event
  /-- The worker is no more. -/
  closed : Bool

variable {post : List Note → Turn × Session → Mailbox → Prop} {notes : List Note} {box : Mailbox}

/-- However its deeds are answered, the move comes to an end that suits `post`, if the session
hears just what is in the mailbox: it replies, or all is heard and it still listens. -/
inductive Move.Comes (post : List Note → Turn × Session → Mailbox → Prop) :
    List Note → Mailbox → Move → Prop where
  | reply {notes : List Note} {box : Mailbox} {result : Except SessionError Reply}
      {session : Session} (h : post notes (.reply result, session) box) :
      Comes post notes box (.done (.reply result, session))
  | silence {notes : List Note} {session : Session} {goal : Listening}
      (hlive : session.live ≠ none) (h : post notes (.listen goal, session) ⟨[], false⟩) :
      Comes post notes ⟨[], false⟩ (.done (.listen goal, session))
  | event {notes : List Note} {session : Session} {goal : Listening} {worker : Nat}
      {event : Event} {events : List Event} {closed : Bool} (hlive : session.live = some worker)
      (h : Comes post (notes ++ [.heard worker (.event event)]) ⟨events, closed⟩
        (session.hear goal (.event event))) :
      Comes post notes ⟨event :: events, closed⟩ (.done (.listen goal, session))
  | gone {notes : List Note} {session : Session} {goal : Listening} {worker : Nat}
      (hlive : session.live = some worker)
      (h : Comes post (notes ++ [.heard worker .gone]) ⟨[], true⟩ (session.hear goal .gone)) :
      Comes post notes ⟨[], true⟩ (.done (.listen goal, session))
  | write {notes : List Note} {box : Mailbox} {content : Content}
      {next : Except BufferError Unit → Move}
      (h : ∀ answer, Comes post (notes ++ [.did (.wrote content answer)]) box (next answer)) :
      Comes post notes box (.write content next)
  | spawn {notes : List Note} {box : Mailbox} {next : Except TransportError Unit → Move}
      (h : ∀ answer, Comes post (notes ++ [.did (.spawned answer)]) box (next answer)) :
      Comes post notes box (.spawn next)
  | post {notes : List Note} {box : Mailbox} {worker : Nat} {command : Command}
      {next : Except TransportError Unit → Move}
      (h : ∀ answer, Comes post (notes ++ [.did (.posted worker command answer)]) box
        (next answer)) :
      Comes post notes box (.post worker command next)
  | terminate {notes : List Note} {box : Mailbox} {worker : Nat} {next : Unit → Move}
      (h : Comes post (notes ++ [.did (.terminated worker)]) box (next ())) :
      Comes post notes box (.terminate worker next)
  | discard {notes : List Note} {box : Mailbox} {worker : Nat} {next : Unit → Move}
      (h : Comes post (notes ++ [.did (.discarded worker)]) box (next ())) :
      Comes post notes box (.discard worker next)

theorem Session.giveUp_comes {session : Session} {worker : Nat}
    (hlive : session.live = some worker) {reason : Pending → TransportError} {error : SessionError}
    (h : post (notes ++ [.did (.terminated worker)])
      (.reply (.error error), session.abandon reason) box) :
    Move.Comes post notes box (do (← session.letGo reason).fail error) := by
  rw [letGo, hlive]
  exact .terminate (.reply h)

/-- The deed clears the buffer at most, and gives this session. -/
inductive Deed.ClearsAtMost (session : Session) : Deed Session → Prop where
  | nothing : ClearsAtMost session (.done session)
  | clears : ClearsAtMost session (.write .empty fun _ => .done session)

theorem Deed.ClearsAtMost.comes {session : Session} {deed : Deed Session}
    (h : deed.ClearsAtMost session) {next : Session → Move}
    (hnext : ∀ more : List Note, (more = [] ∨ ∃ answer, more = [.did (.wrote .empty answer)]) →
      (next session).Comes post (notes ++ more) box) :
    Move.Comes post notes box (deed >>= next) := by
  cases h with
  | nothing =>
      rw [← notes.append_nil]
      exact hnext [] (.inl rfl)
  | clears => exact .write fun answer => hnext _ (.inr ⟨answer, rfl⟩)

end ScriptConsole
