import ScriptConsole.Proofs.Session.Moves

/-!
The courses that a session can take, whatever its surroundings do: every call may come while it
rests, every deed may get any answer, and while it listens anything may be heard. Along a course
the session agrees with the account of its log, as long as workers reply only to what they were
told.
-/

namespace ScriptConsole

/-- Where a session is between two steps. -/
inductive Stage where
  | resting (session : Session)
  | acting (move : Move)
  | listening (session : Session) (listening : Listening)

namespace Stage

/-- Where a session is that has a move to make. -/
def ofMove : Move → Stage
  | .done (.reply _, session) => resting session
  | .done (.listen goal, session) => listening session goal
  | move => acting move

/-- What is noted when a session comes to a move. -/
def notes : Move → List Note
  | .done (.reply result, session) => [.replied result, .showed session]
  | .done (.listen _, session) => [.showed session]
  | _ => []

/-- The session, unless it is in the middle of its deeds. -/
def session? : Stage → Option Session
  | resting session => some session
  | acting _ => none
  | listening session _ => some session

/-- One step of a session, with what is noted of it. -/
inductive Goes : Stage → List Note → Stage → Prop where
  | call (session : Session) (call : Session.Call) :
      Goes (resting session) (.called call :: notes (session.call call))
        (ofMove (session.call call))
  | deed {move next : Move} {done : Done} (hgoes : move.Goes done next) :
      Goes (acting move) (.did done :: notes next) (ofMove next)
  | hear {session : Session} {goal : Listening} {worker : Nat} (hlive : session.live = some worker)
      (heard : Heard) :
      Goes (listening session goal) (.heard worker heard :: notes (session.hear goal heard))
        (ofMove (session.hear goal heard))
  /-- The host recalls a statement, prints something or clears the console. -/
  | edit (session : Session) (history : History) (transcript : Transcript) :
      Goes (resting session) [.showed { session with history, transcript }]
        (resting { session with history, transcript })

/-- The stage suits the account. -/
def Suits : Stage → Account → Prop
  | resting session, a => session.Clear a ∧ a.booting = false ∧ a.shown = a.last
  | acting move, a => a.Sound ∧ a.delivered = none ∧ move.Keeps a
  | listening session goal, a =>
      session.Clear a ∧ a.live ≠ none ∧ Session.Heeds a goal ∧ a.shown = a.last

end Stage

namespace Session

variable {session : Session} {a : Account}

theorem Clear.replied (hagrees : session.Agrees a) (hsound : a.Sound) (hunborn : a.unborn = none)
    (hlost : a.lost = false) (result : Except SessionError Reply) :
    session.Clear (a.note (.replied result)) :=
  ⟨⟨{ hagrees with }, hsound.replied result, hunborn, rfl⟩, hlost⟩

theorem Clear.showed (h : session.Clear a) : session.Clear (a.note (.showed session)) := by
  have hagrees := h.agrees
  exact ⟨⟨{ hagrees with }, h.sound.showed hagrees.last, h.unborn, h.delivered⟩, h.lost⟩

end Session

namespace Stage

variable {a : Account}

theorem suits_ofMove {move : Move} (hkeeps : move.Keeps a) (hsound : a.Sound) :
    a.Allows (notes move) ∧ (ofMove move).Suits ((notes move).foldl Account.note a) := by
  cases move with
  | done stand =>
      obtain ⟨turn, session⟩ := stand
      cases turn with
      | reply result =>
          obtain ⟨hagrees, hunborn, hbooting, hlost, hconfirms⟩ := hkeeps
          refine ⟨⟨hconfirms, ⟨rfl, hagrees.last⟩, trivial⟩, ?_⟩
          exact ⟨(Session.Clear.replied hagrees hsound hunborn hlost result).showed, hbooting,
            hagrees.last⟩
      | listen goal =>
          obtain ⟨hagrees, hunborn, hlost, hlive, hdelivered, hheeds⟩ := hkeeps
          have hclear : session.Clear a := ⟨⟨hagrees, hsound, hunborn, hdelivered⟩, hlost⟩
          refine ⟨⟨⟨hdelivered, hagrees.last⟩, trivial⟩, hclear.showed, hlive, ?_, hagrees.last⟩
          cases goal with
          | poll next => cases next <;> exact hheeds
          | _ => exact hheeds
  | write content next => exact ⟨trivial, hsound, hkeeps.1, hkeeps⟩
  | spawn next => exact ⟨trivial, hsound, hkeeps.1, hkeeps⟩
  | post worker command next => exact ⟨trivial, hsound, hkeeps.1, hkeeps⟩
  | terminate worker next => exact ⟨trivial, hsound, hkeeps.1, hkeeps⟩
  | discard worker next => exact ⟨trivial, hsound, hkeeps.1, hkeeps⟩

/-- A step leads from a stage that suits the account to one that suits the account afterwards, and
what is noted of it was allowed. -/
theorem Goes.suits {stage stage' : Stage} {more : List Note} (hgoes : stage.Goes more stage')
    (hsuits : stage.Suits a)
    (hexpects : ∀ worker heard, more.head? = some (.heard worker heard) →
      a.live = some worker → a.Expects heard) :
    a.Allows more ∧ stage'.Suits (more.foldl Account.note a) := by
  cases hgoes with
  | call session call =>
      obtain ⟨hclear, hbooting, hshown⟩ := hsuits
      obtain ⟨hallows, hnext⟩ := suits_ofMove (Session.call_keeps hclear hshown hbooting call)
        (hclear.sound.called call)
      exact ⟨⟨hclear.delivered, hallows⟩, hnext⟩
  | deed hgoes =>
      obtain ⟨hsound, -, hkeeps⟩ := hsuits
      obtain ⟨hdelivered, hmay, hleft⟩ := hkeeps.did hgoes
      obtain ⟨hallows, hnext⟩ := suits_ofMove hleft (hsound.did hmay)
      exact ⟨⟨⟨hdelivered, hmay⟩, hallows⟩, hnext⟩
  | @hear session goal worker hlive heard =>
      obtain ⟨hclear, -, hheeds, hshown⟩ := hsuits
      have hsame : a.live = some worker := hclear.agrees.live.symm.trans hlive
      have hexpected : a.Expects heard := hexpects worker heard rfl hsame
      obtain ⟨hallows, hnext⟩ :=
        suits_ofMove (Session.hear_keeps hclear hsame hshown hheeds hexpected)
          (hclear.sound.heard hsame hshown hexpected)
      exact ⟨⟨⟨hclear.delivered, hsame, hshown, hexpected⟩, hallows⟩, hnext⟩
  | edit session history transcript =>
      obtain ⟨hclear, hbooting, hshown⟩ := hsuits
      have hagrees := hclear.agrees
      have hedited : ({ session with history, transcript } : Session).Clear a :=
        hclear.agreeing { hagrees with }
      exact ⟨⟨⟨hclear.delivered, hagrees.last⟩, trivial⟩, hedited.showed, hbooting, hagrees.last⟩

theorem Goes.rest_shows {stage stage' : Stage} {note : Note} {more : List Note}
    (hgoes : stage.Goes (note :: more) stage') :
    ∀ next ∈ more, (∃ result, next = .replied result) ∨ ∃ session, next = .showed session := by
  have hnotes (move : Move) : ∀ next ∈ notes move,
      (∃ result, next = .replied result) ∨ ∃ session, next = .showed session := by
    cases move with
    | done stand =>
        obtain ⟨turn, session⟩ := stand
        cases turn <;> simp [notes]
    | _ => simp [notes]
  cases hgoes with
  | edit => simp
  | _ => exact hnotes _

end Stage

/-! ### What workers say -/

namespace Account

variable {a : Account}

/-- The same account, but for what workers have asked for and taken. -/
def telling (a : Account) (asked : Nat) (taken : List (Nat × UInt64)) : Account :=
  { a with asked, taken }

theorem said_telling (a : Account) (worker : Nat) (event : Event) :
    ∃ asked taken, a.said worker event = a.telling asked taken :=
  ⟨_, a.taken, a.said_eq worker event⟩

theorem ended_telling (a : Account) (worker : Nat) (result : Except HostError String) :
    ∃ asked taken, a.ended worker result = a.telling asked taken :=
  ⟨a.asked, _, a.ended_eq worker result⟩

theorem did_telling (a : Account) (asked : Nat) (taken : List (Nat × UInt64)) (done : Done) :
    ∃ asked' taken', (a.telling asked taken).did done = (a.did done).telling asked' taken' := by
  cases done with
  | wrote content answer =>
      cases answer with
      | error cause => exact ⟨_, _, rfl⟩
      | ok _ => cases content <;> exact ⟨_, _, rfl⟩
  | spawned answer => cases answer <;> exact ⟨_, _, rfl⟩
  | posted worker command answer =>
      cases answer with
      | error cause => exact ⟨_, _, rfl⟩
      | ok _ => cases command <;> exact ⟨_, _, rfl⟩
  | terminated worker => exact ⟨0, _, rfl⟩
  | discarded worker => exact ⟨_, _, rfl⟩

theorem May.telling {done : Done} (h : a.May done) (asked : Nat) (taken : List (Nat × UInt64)) :
    (a.telling asked taken).May done := by
  cases done with
  | wrote content answer => cases content <;> exact h
  | posted worker command answer => cases command <;> exact h
  | _ => exact h

end Account

namespace Session

variable {session : Session} {a : Account}

theorem Agrees.telling (h : session.Agrees a) (asked : Nat) (taken : List (Nat × UInt64)) :
    session.Agrees (a.telling asked taken) :=
  { h with }

theorem Heeds.telling {goal : Listening} (h : Heeds a goal) (asked : Nat)
    (taken : List (Nat × UInt64)) : Heeds (a.telling asked taken) goal := by
  cases goal with
  | poll next => cases next <;> exact h
  | _ => exact h

theorem Clear.telling (h : session.Clear a) {asked : Nat} {taken : List (Nat × UInt64)}
    (hsound : (a.telling asked taken).Sound) : session.Clear (a.telling asked taken) :=
  ⟨⟨h.agrees.telling asked taken, hsound, h.unborn, h.delivered⟩, h.lost⟩

end Session

theorem Move.keeps_did {next : Move} {a : Account} {done : Done}
    (h : ∀ asked taken, next.Keeps ((a.did done).telling asked taken)) (asked : Nat)
    (taken : List (Nat × UInt64)) : next.Keeps ((a.telling asked taken).did done) := by
  obtain ⟨asked', taken', hdid⟩ := a.did_telling asked taken done
  rw [hdid]
  exact h asked' taken'

/-- What workers say changes nothing about what a session may do. -/
theorem Move.Keeps.telling {move : Move} {a : Account} (h : move.Keeps a) (asked : Nat)
    (taken : List (Nat × UInt64)) : move.Keeps (a.telling asked taken) := by
  induction move generalizing a asked taken with
  | done stand =>
      obtain ⟨turn, session⟩ := stand
      cases turn with
      | reply result =>
          obtain ⟨hagrees, hrest⟩ := h
          exact ⟨hagrees.telling asked taken, hrest⟩
      | listen goal =>
          obtain ⟨hagrees, hunborn, hlost, hlive, hdelivered, hheeds⟩ := h
          exact ⟨hagrees.telling asked taken, hunborn, hlost, hlive, hdelivered,
            hheeds.telling asked taken⟩
  | write content next ih =>
      refine ⟨h.1, fun answer => ⟨(h.2 answer).1.telling asked taken, ?_⟩⟩
      exact keeps_did (ih answer (h.2 answer).2) asked taken
  | spawn next ih =>
      refine ⟨h.1, fun answer => ⟨(h.2 answer).1.telling asked taken, ?_⟩⟩
      exact keeps_did (ih answer (h.2 answer).2) asked taken
  | post worker command next ih =>
      refine ⟨h.1, fun answer => ⟨(h.2 answer).1.telling asked taken, ?_⟩⟩
      exact keeps_did (ih answer (h.2 answer).2) asked taken
  | terminate worker next ih =>
      exact ⟨h.1, h.2.1.telling asked taken, keeps_did (ih () h.2.2) asked taken⟩
  | discard worker next ih =>
      exact ⟨h.1, h.2.1.telling asked taken, keeps_did (ih () h.2.2) asked taken⟩

namespace Stage

variable {stage : Stage} {a : Account}

theorem Suits.sound (h : stage.Suits a) : a.Sound := by
  cases stage with
  | acting move => exact h.1
  | _ => exact h.1.sound

theorem Suits.delivered (h : stage.Suits a) : a.delivered = none := by
  cases stage with
  | acting move => exact h.2.1
  | _ => exact h.1.delivered

theorem Suits.telling (h : stage.Suits a) {asked : Nat} {taken : List (Nat × UInt64)}
    (hsound : (a.telling asked taken).Sound) : stage.Suits (a.telling asked taken) := by
  cases stage with
  | resting session => exact ⟨h.1.telling hsound, h.2⟩
  | acting move => exact ⟨hsound, h.2.1, h.2.2.telling asked taken⟩
  | listening session goal =>
      obtain ⟨hclear, hlive, hheeds, hshown⟩ := h
      exact ⟨hclear.telling hsound, hlive, hheeds.telling asked taken, hshown⟩

theorem Suits.said (h : stage.Suits a) (worker : Nat) (event : Event) :
    a.Permits (.said worker event) ∧ stage.Suits (a.note (.said worker event)) := by
  have hsound := h.sound.said worker event
  obtain ⟨asked, taken, hsaid⟩ := a.said_telling worker event
  rw [hsaid] at hsound
  refine ⟨h.delivered, ?_⟩
  rw [Account.note, hsaid]
  exact h.telling hsound

theorem Suits.ended (h : stage.Suits a) (worker : Nat) (request : UInt64)
    (result : Except HostError String) :
    a.Permits (.ended worker request result) ∧
      stage.Suits (a.note (.ended worker request result)) := by
  have hsound := h.sound.ended worker result
  obtain ⟨asked, taken, hended⟩ := a.ended_telling worker result
  rw [hended] at hsound
  refine ⟨h.delivered, ?_⟩
  rw [Account.note, hended]
  exact h.telling hsound

end Stage

/-- A session with this configuration and this buffer can have this log and be at this stage. -/
inductive Session.Course (config : Config) (url : String) : List Note → Stage → Prop where
  | new : Course config url [] (.resting (.new config url))
  | step {log more : List Note} {stage stage' : Stage} (h : Course config url log stage)
      (hgoes : stage.Goes more stage') : Course config url (log ++ more) stage'

namespace Session

variable {config : Config} {url : String}

theorem new_clear (config : Config) (url : String) : (new config url).Clear (.new config url) :=
  ⟨⟨⟨rfl, rfl, rfl, rfl, rfl, rfl, rfl, rfl, rfl, (by rintro ⟨⟩)⟩, Account.sound_new config url,
    rfl, rfl⟩,
    rfl⟩

/-- A new session, once its first worker has booted. -/
def started : Session :=
  { new .default "memory://0" with phase := .ready, live := some 0, spawned := 1 }

/-- What was noted until then. -/
def startingLog : List Note :=
  [.called .start, .did (.wrote .empty (.ok ())), .did (.spawned (.ok ())),
    .did (.posted 0 (.boot .default "memory://0") (.ok ())),
    .showed { started with phase := .initializing, pending := some .init },
    .heard 0 (.event .initOk), .replied (.ok .done), .showed started]

theorem course_started : Course .default "memory://0" startingLog (.resting started) := by
  have starting : Course .default "memory://0" _ _ := .step .new (.call _ .start)
  have cleared := starting.step (.deed (.write (.ok ())))
  have spawned := cleared.step (.deed (.spawn (.ok ())))
  have told := spawned.step (.deed (.post (.ok ())))
  exact told.step (.hear rfl (.event .initOk))

end Session
end ScriptConsole
