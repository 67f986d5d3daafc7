import ScriptConsole.Rehearsal.Stage
import ScriptConsole.System.Schedule

/-!
A session with what it works in: real workers, or workers that are played on a stage.
-/

namespace ScriptConsole.Rehearsal

inductive Play (σ : Type) where
  | real (system : System σ)
  | staged (stage : Stage) (session : Session)

namespace Play

variable {σ : Type}

/-- The session, unless it is in the middle of its deeds. -/
def session? : Play σ → Option Session
  | real system => system.session?
  | staged _ session => some session

/-- Change a session that rests. -/
def update (f : Session → Session) : Play σ → Play σ
  | real system => real (system.update f)
  | staged stage session => staged stage (f session)

/-- Call the session: what it replied, and the play afterwards. -/
def call (fuel : Nat) (call : Session.Call) :
    Play σ → Option (Except SessionError Reply) × Play σ
  | real system =>
      let system := system.perform fuel call
      (system.reply?, real system)
  | staged stage session =>
      match stage.play (session.call call) with
      | some ((result, session), stage) => (some result, staged stage session)
      | none => (none, staged stage session)

/-- What the shared buffer holds. -/
def content : Play σ → Except BufferError Content
  | real system => system.world.content
  | staged stage _ => stage.buffer.read stage.storage

def files : Play σ → Files
  | real system => system.world.storage.files
  | staged stage _ => stage.storage.files

/-- Change the files. -/
def updateFiles (f : Files → Files) : Play σ → Play σ
  | real system =>
      let storage := { system.world.storage with files := f system.world.storage.files }
      real { system with world := { system.world with storage } }
  | staged stage session =>
      staged { stage with storage := { stage.storage with files := f stage.storage.files } } session

/-- Have the writes of the session to the buffer fail, or no longer. -/
def withJam (jam : Option IoError) : Play σ → Play σ
  | real system => real { system with world := { system.world with jam } }
  | staged stage session => staged { stage with jam } session

/-- Write the buffer as the session would. -/
def write (content : Content) : Play σ → Except BufferError Unit × Play σ
  | real system =>
      let (result, world) := system.world.write content
      (result, real { system with world })
  | staged stage session =>
      let (result, stage) := stage.write content
      (result, staged stage session)

/-- Have the last played worker say something: whether it could. -/
def emit (event : Event) : Play σ → Bool × Play σ
  | real system => (false, real system)
  | staged stage session =>
      let (said, stage) := stage.emit event
      (said, staged stage session)

/-- Have the last played worker fall silent. -/
def exit : Play σ → Play σ
  | real system => real system
  | staged stage session => staged stage.exit session

/-- What a session asked of played workers. -/
structure Record where
  posted : List Command
  spawns : Nat
  terminations : Nat

/-- The record of played workers; there is none of programs and of real workers. -/
def record : Play σ → Record
  | real _ => ⟨[], 0, 0⟩
  | staged stage _ =>
      if stage.isPiped then ⟨[], 0, 0⟩ else ⟨stage.posted, stage.tried, stage.terminations⟩

end Play
end ScriptConsole.Rehearsal
