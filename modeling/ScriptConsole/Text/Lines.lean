/-!
Texts as lines. A line ends at a newline; a carriage return just before the newline belongs
to the line's end, and an empty text after the last newline is no line.
-/

namespace ScriptConsole.Text

/-- A line that a newline ended, without the carriage return before it. -/
def dropReturn (line : List Char) : List Char :=
  if line.getLast? = some '\r' then line.dropLast else line

/-- The lines of a text, without their ends. -/
def lines (s : List Char) : List (List Char) :=
  let pieces := s.splitOn '\n'
  let last := pieces.getLastD []
  pieces.dropLast.map dropReturn ++ if last = [] then [] else [last]

/-- The text without the carriage returns and newlines at its end. -/
def dropLineEnd (s : List Char) : List Char :=
  (s.reverse.dropWhile fun c => c == '\r' || c == '\n').reverse

end ScriptConsole.Text
