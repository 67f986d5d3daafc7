import ScriptConsole.Error
import ScriptConsole.Json.Record
import ScriptConsole.Text.Blank

/-!
Messages as frames: one line of compact JSON each.
-/

namespace ScriptConsole.Wire

/-- How the messages of one direction are written as JSON and read. -/
structure Format (α : Type) where
  write : α → Json
  read? : Json → Option α

namespace Format

variable {α : Type}

/-- The frame of a message, with the newline that ends it. -/
def encode (format : Format α) (message : α) : String :=
  String.ofList ((format.write message).write ++ ['\n'])

/-- The message of a frame. Blanks around the frame do not count. -/
def decode (format : Format α) (frame : List Char) : Except TransportError α :=
  let text := Text.trim frame
  match Json.read text with
  | .error fault => .error (.malformed (fault.message text))
  | .ok j =>
      match format.read? j with
      | some message => .ok message
      | none => .error (.malformed Json.Cause.mismatch.message)

end Format
end ScriptConsole.Wire
