import ScriptConsole.Script.Import
import ScriptConsole.Script.Expression

/-!
Programs: the lines of a text grouped into simple statements and `if` blocks, and their
execution in order. A line out of place is an item that fails when its turn comes, so the items
before it have run by then.
-/

namespace ScriptConsole.Script

/-- A line that is neither blank nor a comment, without its outer blanks. -/
structure SourceLine where
  number : Nat
  text : List Char
  indented : Bool
  deriving DecidableEq

namespace SourceLine

/-- The line of text number `number`, if it says anything. -/
def read? (number : Nat) (raw : List Char) : Option SourceLine :=
  let text := Text.trim raw
  if text.isEmpty || text.head? == some '#' then none
  else some ⟨number, text, Text.startsBlank raw⟩

/-- The lines of a text that say anything, numbered from `number` on. -/
def readFrom (number : Nat) : List (List Char) → List SourceLine
  | [] => []
  | raw :: rest =>
      match read? number raw with
      | some line => line :: readFrom (number + 1) rest
      | none => readFrom (number + 1) rest

def ofText (code : String) : List SourceLine :=
  readFrom 1 (Text.lines code.toList)

/-- The line ends with a colon, as the header of a block does. -/
def isHeader (line : SourceLine) : Bool :=
  line.text.getLast? == some ':'

/-- The condition of an `if` header. -/
def condition? (line : SourceLine) : Option (List Char) :=
  Text.after? "if ".toList line.text >>= Text.before? [':']

def isElse (line : SourceLine) : Bool :=
  !line.indented && line.text == "else:".toList

end SourceLine

/-- What a program executes as one. -/
inductive Item where
  | simple (text : List Char)
  | branch (condition : List Char) (body orelse : List (List Char))
  | malformed (fault : Fault)

namespace Item

/-- The indented lines under the header numbered `header`, and the lines after them. -/
def block (header : Nat) (ls : List SourceLine) :
    Except Fault (List (List Char) × List SourceLine) :=
  let body := ls.takeWhile (·.indented)
  match body.find? (·.isHeader) with
  | some line => .error (.nestedBlock line.number)
  | none =>
      if body.isEmpty then .error (.missingBlock header)
      else .ok (body.map (·.text), ls.dropWhile (·.indented))

theorem block_length {header : Nat} {ls rest : List SourceLine} {body : List (List Char)}
    (h : block header ls = .ok (body, rest)) : rest.length ≤ ls.length := by
  simp only [block] at h
  split at h
  · simp at h
  · split at h
    · simp at h
    · obtain ⟨-, rfl⟩ := Prod.mk.inj (Except.ok.inj h)
      exact (List.dropWhile_suffix _).length_le

/-- The `else` block at the start of the lines, or no lines if there is none. -/
def elseBlock : List SourceLine → Except Fault (List (List Char) × List SourceLine)
  | [] => .ok ([], [])
  | line :: rest => if line.isElse then block line.number rest else .ok ([], line :: rest)

theorem elseBlock_length {ls rest : List SourceLine} {body : List (List Char)}
    (h : elseBlock ls = .ok (body, rest)) : rest.length ≤ ls.length := by
  cases ls with
  | nil =>
      obtain ⟨-, rfl⟩ := Prod.mk.inj (Except.ok.inj h)
      exact Nat.le_refl _
  | cons line ls =>
      simp only [elseBlock] at h
      split at h
      · exact Nat.le_succ_of_le (block_length h)
      · obtain ⟨-, rfl⟩ := Prod.mk.inj (Except.ok.inj h)
        exact Nat.le_refl _

/-- The items of a program. Nothing is read behind a malformed one. -/
def ofLines : List SourceLine → List Item
  | [] => []
  | line :: rest =>
      if line.indented then [.malformed (.unexpectedIndent line.number)]
      else match line.condition? with
        | none =>
            if line.isHeader then [.malformed (.unsupportedBlock line.number)]
            else .simple line.text :: ofLines rest
        | some condition =>
            match _ : block line.number rest with
            | .error fault => [.malformed fault]
            | .ok (body, rest₁) =>
                match _ : elseBlock rest₁ with
                | .error fault => [.malformed fault]
                | .ok (orelse, rest₂) => .branch condition body orelse :: ofLines rest₂
termination_by ls => ls.length
decreasing_by
  · simp
  · exact Nat.lt_succ_of_le (Nat.le_trans (elseBlock_length ‹_›) (block_length ‹_›))

end Item

/-- Execute one simple statement. An expression that is not `None` is its value. -/
def execute (line : List Char) : Running (Option Value) := do
  if line = "pass".toList then return none
  else if isImport line then
    importModules (importedModules line)
    return none
  else
    let tokens ← observe fun _ => Expression.pass (Token.tokenize line)
    match tokens with
    | .name "raise" :: tokens =>
        match ← observe fun scope => Expression.evaluate scope tokens with
        | .exception kind message => throw (.raised kind message)
        | value => throw (.notAnException value)
    | .name name :: .assign :: tokens =>
        let value ← observe fun scope => Expression.evaluate scope tokens
        modifyThe Scope (·.set name value)
        return none
    | tokens =>
        match ← observe fun scope => Expression.evaluate scope tokens with
        | .nothing => return none
        | value => return some value

/-- Execute simple statements in order; the value is that of the last one. -/
def executeAll (last : Option Value) : List (List Char) → Running (Option Value)
  | [] => return last
  | line :: lines => do executeAll (← execute line) lines

namespace Item

def run : Item → Running (Option Value)
  | simple text => execute text
  | branch condition body orelse => do
      let value ← observe fun scope => do
        Expression.evaluate scope (← Expression.pass (Token.tokenize condition))
      executeAll none (if value.isTruthy then body else orelse)
  | malformed fault => throw fault

/-- Run the items in order; the value is that of the last one. -/
def runAll (last : Option Value) : List Item → Running (Option Value)
  | [] => return last
  | item :: items => do runAll (← item.run) items

end Item

/-- Run a text; the result is the displayed form of the last statement's value. -/
def runCode (code : String) : Running (Option String) := do
  let value ← Item.runAll none (Item.ofLines (SourceLine.ofText code))
  return value.map Value.display

end ScriptConsole.Script
