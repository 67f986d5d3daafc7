import ScriptConsole.Json.Record
import ScriptConsole.Text.Blank

/-!
What the shared input buffer holds: nothing, a mark that it is closed, or one line with the
request that it answers and its number among all lines. Stored text that is no content, or only
part of one, counts as nothing.
-/

namespace ScriptConsole

inductive Content where
  | empty
  | closed
  | line (request sequence : UInt64) (text : String)
  deriving DecidableEq

namespace Content

/-- A reader who has seen the line numbered `after` takes this content: it is a later line, or
the mark that the buffer is closed. -/
def isNewerThan (after : Option UInt64) : Content → Bool
  | empty => false
  | closed => true
  | line _ sequence _ =>
      match after with
      | none => true
      | some seen => seen < sequence

def write : Content → Json
  | empty => .object [("state", .str "empty")]
  | closed => .object [("state", .str "closed")]
  | line request sequence text => .object
      [("state", .str "line"), ("request", .ofNat request.toNat),
        ("sequence", .ofNat sequence.toNat), ("text", .str text)]

/-- The stored form. -/
def encode (content : Content) : List Char :=
  content.write.write

def readLine? (body : Json.Body) : Option Content := do
  match ← body.arrange? ["request", "sequence", "text"] with
  | [request, sequence, text] =>
      return .line (← Json.required Json.toUInt64? request)
        (← Json.required Json.toUInt64? sequence) (← Json.required Json.toText? text)
  | _ => none

/-- A content that has no fields of its own. -/
def readBare? (content : Content) : Json.Body → Option Content
  | .named _ => some content
  | .ordered [] => some content
  | .ordered _ => none

def read? (j : Json) : Option Content := do
  let (tag, body) ← j.tagged? "state"
  if tag = "empty" then readBare? .empty body
  else if tag = "closed" then readBare? .closed body
  else if tag = "line" then readLine? body
  else none

/-- The content that a stored text stands for. -/
def decode (raw : List Char) : Content :=
  match Json.read (Text.trim raw) with
  | .error _ => .empty
  | .ok j => (read? j).getD .empty

end Content
end ScriptConsole
