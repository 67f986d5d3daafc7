import ScriptConsole.Text.Blank
import ScriptConsole.Text.Lines

/-!
Lines that a user types one by one, gathered into statements. A line that ends in a colon opens
a block, indented lines continue it and an empty line closes it. While a running script waits
for input, the next line is its answer and no part of a statement.
-/

namespace ScriptConsole

namespace Statement

/-- The last line of a text without its outer blanks. -/
def lastLine (source : List Char) : List Char :=
  (Text.lines (Text.trim source)).getLastD []

def endsWithEmptyLine (source : List Char) : Bool :=
  (Text.before? ['\n', '\n'] source).isSome

/-- The text waits for more lines: its last line opens a block, or continues one that no empty
line has closed. -/
def isIncomplete (source : List Char) : Bool :=
  let last := lastLine source
  if last.getLast? == some ':' then true
  else if Text.startsBlank last then !endsWithEmptyLine source
  else false

end Statement

/-- What became of a typed line. -/
inductive LineOutcome where
  /-- A blank line where no statement was begun. -/
  | ignored
  | incomplete
  | statement (source : String)
  /-- The answer to a script that waits for input. -/
  | input (text : String)
  deriving DecidableEq

/-- The lines of the statement that is being typed, each with its newline, and whether the next
line answers a script instead. -/
structure StatementBuffer where
  lines : List (List Char)
  awaitingInput : Bool
  deriving DecidableEq

namespace StatementBuffer

def empty : StatementBuffer := ⟨[], false⟩

def isEmpty (b : StatementBuffer) : Bool :=
  b.lines.isEmpty

def pending (b : StatementBuffer) : List Char :=
  b.lines.flatten

def setAwaitingInput (b : StatementBuffer) (awaiting : Bool) : StatementBuffer :=
  { b with awaitingInput := awaiting }

/-- Take one line, with or without its end. An answer drops the lines that were typed before
it. -/
def push (b : StatementBuffer) (line : String) : LineOutcome × StatementBuffer :=
  let line := Text.dropLineEnd line.toList
  if b.awaitingInput then (.input (String.ofList line), empty)
  else if b.isEmpty && Text.allBlank line then (.ignored, b)
  else
    let b := { b with lines := b.lines ++ [line ++ ['\n']] }
    if Statement.isIncomplete b.pending then (.incomplete, b)
    else (.statement (String.ofList b.pending), empty)

end StatementBuffer
end ScriptConsole
