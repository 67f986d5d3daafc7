/-!
White space, and texts without their outer white space. A blank is a character with the
Unicode property `White_Space`.
-/

namespace ScriptConsole.Text

/-- The Unicode property `White_Space`. -/
def isBlank (c : Char) : Bool :=
  let n := c.toNat
  (9 ≤ n && n ≤ 13) || n == 0x20 || n == 0x85 || n == 0xA0 || n == 0x1680 ||
    (0x2000 ≤ n && n ≤ 0x200A) || n == 0x2028 || n == 0x2029 || n == 0x202F ||
    n == 0x205F || n == 0x3000

def trimStart (s : List Char) : List Char :=
  s.dropWhile isBlank

def trimEnd (s : List Char) : List Char :=
  (s.reverse.dropWhile isBlank).reverse

/-- The text without the blanks at its two ends. -/
def trim (s : List Char) : List Char :=
  trimEnd (trimStart s)

/-- Nothing but blanks. -/
def allBlank (s : List Char) : Bool :=
  s.all isBlank

/-- The text begins with a blank. -/
def startsBlank : List Char → Bool
  | [] => false
  | c :: _ => isBlank c

/-- The first run of characters that are not blank, if there is one. -/
def firstWord (s : List Char) : Option (List Char) :=
  match trimStart s with
  | [] => none
  | c :: rest => some (c :: rest.takeWhile fun d => !isBlank d)

/-- The text without `head`, if it begins so. -/
def after? (head : List Char) (s : List Char) : Option (List Char) :=
  head.isPrefixOf? s

/-- The text without `tail`, if it ends so. -/
def before? (tail : List Char) (s : List Char) : Option (List Char) :=
  tail.isSuffixOf? s

end ScriptConsole.Text
