import ScriptConsole.Script.Fault
import ScriptConsole.Text.Letter

/-!
The tokens of one line of a script. Reading a line fails at the first character that begins no
token, at a string without its closing quote, and at an integer beyond 64 bits; a `#` outside a
string ends the line.
-/

namespace ScriptConsole.Script

inductive Token where
  /-- A name, perhaps with dots in it. -/
  | name (text : String)
  | int (n : Int64)
  | str (text : String)
  | leftParen
  | rightParen
  | comma
  | plus
  | assign
  | equal
  | notEqual
  deriving DecidableEq

namespace Token

/-- The character that a backslash and `c` stand for in a string. -/
def unescape : Char → Char
  | 'n' => '\n'
  | 't' => '\t'
  | c => c

/-- What follows an opening quote: the string up to the next bare `quote`, and the rest of the
line. -/
def readString? (quote : Char) : List Char → Option (List Char × List Char)
  | [] => none
  | '\\' :: c :: rest =>
      (readString? quote rest).map fun (text, rest) => (unescape c :: text, rest)
  | c :: rest =>
      if c = quote then some ([], rest)
      else if c = '\\' then none
      else (readString? quote rest).map fun (text, rest) => (c :: text, rest)

theorem readString?_length {quote : Char} {s text rest : List Char}
    (h : readString? quote s = some (text, rest)) : rest.length < s.length := by
  fun_induction readString? quote s generalizing text with
  | case1 => simp at h
  | case2 c r ih =>
      obtain ⟨⟨t, r'⟩, hr, he⟩ := Option.map_eq_some_iff.1 h
      obtain ⟨-, rfl⟩ := Prod.mk.inj he
      have := ih hr
      simp only [List.length_cons]
      omega
  | case3 =>
      obtain ⟨-, rfl⟩ := Prod.mk.inj (Option.some.inj h)
      simp
  | case4 => simp at h
  | case5 c r _ _ _ ih =>
      obtain ⟨⟨t, r'⟩, hr, he⟩ := Option.map_eq_some_iff.1 h
      obtain ⟨-, rfl⟩ := Prod.mk.inj he
      have := ih hr
      simp only [List.length_cons]
      omega

/-- A character that may begin a name. -/
def startsName (c : Char) : Bool :=
  Text.isLetter c || c == '_'

/-- A character that may continue a name. -/
def continuesName (c : Char) : Bool :=
  Text.isLetterOrNumber c || c == '_' || c == '.'

/-- A character that may continue an integer. -/
def continuesInt (c : Char) : Bool :=
  Text.isDigit c || c == '_'

/-- The value of a run of digits and underscores. -/
def readInt? (s : List Char) : Option Int64 :=
  Text.readInt64? (s.filter Text.isDigit)

/-- A token and the text after it, which is no longer than `s`. -/
abbrev Lexed (s : List Char) : Type :=
  Token × {rest : List Char // rest.length ≤ s.length}

theorem length_le_self (s : List Char) : s.length ≤ s.length :=
  Nat.le_refl s.length

/-- The token that `first`, followed by `second` just behind it, stands for, or else the token
of `first` alone. -/
def readSign (second : Char) (both : Token) (alone : Except Fault Token) (rest : List Char) :
    Except Fault (Lexed rest) :=
  match rest with
  | c :: tail =>
      if c = second then .ok (both, ⟨tail, by simp⟩)
      else alone.map fun t => (t, ⟨c :: tail, by simp⟩)
  | [] => alone.map fun t => (t, ⟨[], by simp⟩)

/-- The token that begins with `c`, which is neither a space nor the start of a comment. -/
def readFrom (c : Char) (rest : List Char) : Except Fault (Lexed rest) :=
  let single (t : Token) : Except Fault (Lexed rest) := .ok (t, ⟨rest, length_le_self rest⟩)
  if c = '=' then readSign '=' equal (.ok assign) rest
  else if c = '!' then readSign '=' notEqual (.error (.invalidCharacter '!')) rest
  else if c = '(' then single leftParen
  else if c = ')' then single rightParen
  else if c = ',' then single comma
  else if c = '+' then single plus
  else if c = '\'' ∨ c = '"' then
    match h : readString? c rest with
    | none => .error .unterminatedString
    | some (text, after) =>
        .ok (str (String.ofList text), ⟨after, Nat.le_of_lt (readString?_length h)⟩)
  else if Text.isDigit c then
    match readInt? (c :: rest.takeWhile continuesInt) with
    | none => .error .literalTooLarge
    | some n =>
        .ok (int n, ⟨rest.dropWhile continuesInt, (List.dropWhile_suffix _).length_le⟩)
  else if startsName c then
    .ok (name (String.ofList (c :: rest.takeWhile continuesName)),
      ⟨rest.dropWhile continuesName, (List.dropWhile_suffix _).length_le⟩)
  else .error (.invalidCharacter c)

/-- The tokens of a line. -/
def tokenize : List Char → Except Fault (List Token)
  | [] => .ok []
  | c :: rest =>
      if c = ' ' ∨ c = '\t' then tokenize rest
      else if c = '#' then .ok []
      else
        match readFrom c rest with
        | .error fault => .error fault
        | .ok (token, ⟨rest, _⟩) => (tokenize rest).map (token :: ·)
termination_by s => s.length

end Token
end ScriptConsole.Script
