import ScriptConsole.Buffer.File
import ScriptConsole.Worker.Serve
import ScriptConsole.Worker.Supply

/-!
A worker between a stream of commands and a stream of events, with files that nobody else
changes.
-/

namespace ScriptConsole

/-- A stream of bytes. It may take only so many; a write that does not fit fails as a whole. -/
structure Outlet where
  written : List UInt8
  /-- How many bytes it takes, and how a write beyond them fails. -/
  capacity : Option (Nat × IoError)

namespace Outlet

def new (capacity : Option (Nat × IoError)) : Outlet :=
  ⟨[], capacity⟩

def write (outlet : Outlet) (bytes : List UInt8) : Except IoError Outlet :=
  match outlet.capacity with
  | none => .ok { outlet with written := outlet.written ++ bytes }
  | some (limit, fault) =>
      if limit < outlet.written.length + bytes.length then .error fault
      else .ok { outlet with written := outlet.written ++ bytes }

end Outlet

/-- The surroundings of a worker that talks over streams. -/
structure Stream where
  outlet : Outlet
  files : Files
  /-- The shared buffer that the worker opened. -/
  file : Option FileBuffer

namespace Stream

def new (capacity : Option (Nat × IoError)) (files : Files) : Stream :=
  ⟨.new capacity, files, none⟩

/-- Write the frame of an event. -/
def post (event : Event) (stream : Stream) : Except Refusal Unit × Stream :=
  match stream.outlet.write (Text.toBytes (Event.format.encode event)) with
  | .ok outlet => (.ok (), { stream with outlet })
  | .error cause => (.error ⟨.io cause, false⟩, stream)

def openBuffer (url : String) (interval : Duration) (stream : Stream) :
    Except BufferError Unit × Stream :=
  match FileBuffer.ofUrl url stream.files with
  | .error cause => (.error cause, stream)
  | .ok (file, files) =>
      (.ok (), { stream with files, file := some (file.withPollInterval interval) })

/-- What the shared buffer holds. -/
def content (stream : Stream) : Except BufferError Content :=
  match stream.file with
  | none => .ok .empty
  | some file => file.read stream.files

def await (bridge : Bridge) (request : UInt64) (stream : Stream) :
    Option ((Except HostError String × Bridge) × Stream) :=
  ((Supply.still stream.content).await false bridge request).map fun r => (r.1, stream)

def around : Work.Surroundings Stream :=
  ⟨post, await, openBuffer⟩

/-- Handle the commands in a stream of bytes; `none` if the worker waits for ever. -/
def serve {σ : Type} (interpreter : Interpreter σ) (input : List UInt8) (stream : Stream) :
    Option (Except TransportError Unit × Stream) :=
  ((Worker.new interpreter .byUrl).serve (Text.streamLines input)).runIn around stream

end Stream
end ScriptConsole
