import ScriptConsole.Text.Blank
import ScriptConsole.Text.Utf8
import ScriptConsole.Worker.Basic

/-!
Workers in other processes. Commands come in and events go out as lines of text, one frame a
line; blank lines and lines that hold no frame are passed over.
-/

namespace ScriptConsole

namespace Text

def newline : UInt8 := 10

def carriageReturn : UInt8 := 13

/-- A line that a newline ended, without the carriage return before it. -/
def dropReturnByte (line : List UInt8) : List UInt8 :=
  if line.getLast? = some carriageReturn then line.dropLast else line

/-- The lines of a stream of bytes, without their ends. -/
def byteLines (bytes : List UInt8) : List (List UInt8) :=
  let pieces := bytes.splitOn newline
  let last := pieces.getLastD []
  pieces.dropLast.map dropReturnByte ++ if last = [] then [] else [last]

/-- The lines of a stream as texts; a line that is not UTF-8 cannot be read. -/
def streamLines (bytes : List UInt8) : List (Except IoError String) :=
  (byteLines bytes).map fun line =>
    match ofBytes? line with
    | some text => .ok text
    | none => .error .notUtf8

end Text

namespace Wire

/-- The messages in the lines of a stream, up to a line that cannot be read. -/
def messages {α : Type} (format : Format α) : List (Except IoError String) → List α
  | [] => []
  | .error _ :: _ => []
  | .ok line :: lines =>
      if Text.allBlank line.toList then messages format lines
      else
        match format.decode line.toList with
        | .ok message => message :: messages format lines
        | .error _ => messages format lines

end Wire

namespace Worker

variable {σ : Type}

/-- Handle the command in a line, if the line is one: the worker afterwards, unless the line
cannot be read or the reply is not taken. -/
def serveLine (worker : Worker σ) (line : Except IoError String) :
    Work (Except TransportError (Worker σ)) :=
  match line with
  | .error cause => return .error (.io cause)
  | .ok line =>
      if Text.allBlank line.toList then return .ok worker
      else
        match Command.format.decode line.toList with
        | .error _ => return .ok worker
        | .ok command => do
            let (result, worker) ← worker.handle command
            return result.map fun () => worker

/-- Handle the commands in the lines of a stream, one after the other. -/
def serve (worker : Worker σ) : List (Except IoError String) → Work (Except TransportError Unit)
  | [] => return .ok ()
  | line :: lines => do
      match ← worker.serveLine line with
      | .ok worker => worker.serve lines
      | .error cause => return .error cause

end Worker
end ScriptConsole
