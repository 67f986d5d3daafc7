/-!
The statements that were submitted, and a cursor for recalling them. The cursor ranges from the
oldest entry to the place behind the newest one, where a new statement is typed.
-/

namespace ScriptConsole

/-- Where the text cursor stands in an input area of several lines, counted from 1. -/
structure CursorLine where
  line : Nat
  count : Nat
  deriving DecidableEq

namespace CursorLine

/-- The characters in the first `n` bytes of a text, if the text is so long and byte `n` begins
a character or the end. -/
def charsBefore? : Nat → List Char → Option (List Char)
  | 0, _ => some []
  | _ + 1, [] => none
  | n + 1, c :: rest =>
      if c.utf8Size ≤ n + 1 then (charsBefore? (n + 1 - c.utf8Size) rest).map (c :: ·)
      else none
termination_by _ s => s.length

/-- The line of a cursor that selects nothing, given as a range of bytes; `none` for a range
that is not empty or lies inside a character. -/
def locate (text : String) (start stop : Nat) : Option CursorLine :=
  if start = stop then
    (charsBefore? start text.toList).map fun before =>
      ⟨(before.splitOn '\n').length, (text.toList.splitOn '\n').length⟩
  else none

def isFirst (c : CursorLine) : Bool :=
  c.line == 1

def isLast (c : CursorLine) : Bool :=
  c.line == c.count

end CursorLine

inductive Direction where
  | previous
  | next
  deriving DecidableEq

structure History where
  entries : List String
  cursor : Nat
  deriving DecidableEq

namespace History

def empty : History := ⟨[], 0⟩

/-- Append an entry and move the cursor behind it. -/
def push (h : History) (text : String) : History :=
  ⟨h.entries ++ [text], h.entries.length + 1⟩

/-- Step to the entry before the cursor, unless the cursor is at the oldest. -/
def previous (h : History) : Option String × History :=
  match h.cursor with
  | 0 => (none, h)
  | n + 1 => (h.entries[n]?, { h with cursor := n })

/-- Step to the entry behind the cursor; behind the newest one the text is empty. -/
def next (h : History) : Option String × History :=
  if h.cursor < h.entries.length then
    (some (h.entries[h.cursor + 1]?.getD ""), { h with cursor := h.cursor + 1 })
  else (none, h)

/-- Recall from the first line of the input area backwards or from its last line forwards; on
any other line the arrow keys move the text cursor. -/
def recallFrom (h : History) (direction : Direction) (cursor : Option CursorLine) :
    Option String × History :=
  match cursor with
  | none => (none, h)
  | some cursor =>
      match direction with
      | .previous => if cursor.isFirst then h.previous else (none, h)
      | .next => if cursor.isLast then h.next else (none, h)

end History
end ScriptConsole
