import ScriptConsole.Console.Basic
import ScriptConsole.Script.Interpreter
import ScriptConsole.System.Schedule

/-!
The console at work on a session in its surroundings.
-/

namespace ScriptConsole

structure Console where
  system : System Script.Scope
  /-- How many marks of the session were shown. -/
  shown : Nat
  /-- What was written, oldest first. -/
  output : List Chunk

namespace Console

def new (system : System Script.Scope) : Console :=
  ⟨system, 0, []⟩

def write (console : Console) (chunks : List Chunk) : Console :=
  { console with output := console.output ++ chunks }

/-- The session with which the console works. -/
def session (console : Console) : Session :=
  console.system.session?.getD (.new .default "")

/-- Show what the session has printed. -/
def flush (console : Console) : Console :=
  let marks := console.session.transcript.marks
  let console := console.write ((marks.drop console.shown).flatMap Chunk.ofMark)
  { console with shown := marks.length }

/-- The console with its session changed. -/
def withSession (console : Console) (session : Session) : Console :=
  { console with system := console.system.update fun _ => session }.flush

/-- Let time pass while the user types. The workers have done all that they could before. -/
def pass (fuel : Nat) (console : Console) (milliseconds : Nat) : Console :=
  let world := (console.system.world.workOn fuel).pass milliseconds
  { console with system := { console.system with world } }

/-- Go on until the user is to be asked, or is to be left. -/
def follow : Nat → Next → Console → Bool × Console
  | 0, _, console => (false, console)
  | _, .leave, console => (false, console)
  | _, .ask, console => (true, console)
  | fuel + 1, .call call thenWait, console =>
      let console := { console with system := console.system.perform fuel call }.flush
      match console.system.reply? with
      | none => (true, console)
      | some result =>
          let (session, next) := afterCall console.session thenWait result
          follow fuel next (console.withSession session)

/-- Ask the user for a line. -/
def ask (console : Console) : Console :=
  console.write [.out (prompt console.session)]

/-- Take what the user typed: whether there is to be another line. -/
def take (fuel : Nat) (console : Console) (line : Option (Except IoError String)) :
    Bool × Console :=
  let (session, chunks, next) := afterAsking console.session line
  follow fuel next ((console.withSession session).write chunks)

/-- Ask for lines and take them until the user leaves or is left. -/
def converse (fuel : Nat) (console : Console) : List (Except IoError String) → Console
  | [] => (console.ask.take fuel none).2
  | line :: lines =>
      match console.ask.take fuel (some line) with
      | (true, console) => converse fuel console lines
      | (false, console) => console

/-- Let go of the worker. -/
def close (fuel : Nat) (console : Console) : Console :=
  { console with system := console.system.perform fuel .teardown }.flush

end Console
end ScriptConsole
