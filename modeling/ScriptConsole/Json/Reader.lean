import ScriptConsole.Json.Basic

/-!
Reading JSON. A reader takes the longest value at the start of a text and gives what follows it;
a fault gives the text from the offending character on, from which its place is known.
-/

namespace ScriptConsole.Json

inductive Cause where
  | endInValue
  | endInString
  | endInArray
  | endInObject
  | expectedIdent
  | expectedValue
  | expectedColon
  | expectedItemEnd
  | expectedFieldEnd
  | keyNotString
  | trailingCharacters
  | invalidNumber
  | numberOutOfRange
  | invalidEscape
  | controlCharacter
  | loneSurrogate
  | tooDeep
  /-- A well-formed value that is not of the kind that is wanted. -/
  | mismatch
  deriving DecidableEq

def Cause.message : Cause → String
  | endInValue => "EOF while parsing a value"
  | endInString => "EOF while parsing a string"
  | endInArray => "EOF while parsing a list"
  | endInObject => "EOF while parsing an object"
  | expectedIdent => "expected ident"
  | expectedValue => "expected value"
  | expectedColon => "expected ':'"
  | expectedItemEnd => "expected ',' or ']'"
  | expectedFieldEnd => "expected ',' or '\x7d'"
  | keyNotString => "key must be a string"
  | trailingCharacters => "trailing characters"
  | invalidNumber => "invalid number"
  | numberOutOfRange => "number out of range"
  | invalidEscape => "invalid escape"
  | controlCharacter => "control character found while parsing a string"
  | loneSurrogate => "lone leading surrogate in hex escape"
  | tooDeep => "recursion limit exceeded"
  | mismatch => "invalid type"

/-- Why reading stopped, and the text that was left then. -/
structure Fault where
  cause : Cause
  rest : List Char
  deriving DecidableEq

namespace Fault

/-- The part of `text` up to and with the offending character. -/
def consumed (fault : Fault) (text : List Char) : List Char :=
  text.take (text.length - fault.rest.length + 1)

/-- The message with the line of the offending character and its column in bytes, both counted
from 1. -/
def message (fault : Fault) (text : List Char) : String :=
  let before := fault.consumed text
  let line := before.count '\n' + 1
  let column := (before.reverse.takeWhile (· != '\n')).foldl (· + ·.utf8Size) 0
  fault.cause.message ++ " at line " ++ String.ofList (Text.decimal line) ++ " column " ++
    String.ofList (Text.decimal column)

end Fault

/-- How strictly values are read. A value that nobody looks at may nest without bound and may
hold numbers and escapes that have no value. -/
structure Rules where
  depth : Option Nat
  finite : Bool
  paired : Bool
  deriving DecidableEq

namespace Rules

def strict : Rules := ⟨some 127, true, true⟩

def lenient : Rules := ⟨none, false, false⟩

/-- The rules inside an array or an object, if one may begin here. -/
def enter? (rules : Rules) : Option Rules :=
  match rules.depth with
  | none => some rules
  | some 0 => none
  | some (n + 1) => some { rules with depth := some n }

end Rules

def isSpace (c : Char) : Bool :=
  c == ' ' || c == '\t' || c == '\n' || c == '\r'

/-- The text is no longer than `s`. -/
abbrev Tail (s : List Char) : Type :=
  {rest : List Char // rest.length ≤ s.length}

/-- The text from its first character on that is no space. -/
def skip (s : List Char) : Tail s :=
  ⟨s.dropWhile isSpace, (List.dropWhile_suffix _).length_le⟩

/-! ### Strings -/

def hexValue? (c : Char) : Option Nat :=
  let n := c.toNat
  if 48 ≤ n ∧ n ≤ 57 then some (n - 48)
  else if 97 ≤ n ∧ n ≤ 102 then some (n - 87)
  else if 65 ≤ n ∧ n ≤ 70 then some (n - 55)
  else none

def hexValue4? (a b c d : Char) : Option Nat := do
  return (((← hexValue? a) * 16 + (← hexValue? b)) * 16 + (← hexValue? c)) * 16 + (← hexValue? d)

/-- The character after a backslash that stands for one character. -/
def unescape? : Char → Option Char
  | '"' => some '"'
  | '\\' => some '\\'
  | '/' => some '/'
  | 'b' => some '\x08'
  | 'f' => some '\x0c'
  | 'n' => some '\n'
  | 'r' => some '\r'
  | 't' => some '\t'
  | _ => none

def isLeading (n : Nat) : Bool :=
  0xD800 ≤ n && n < 0xDC00

def isTrailing (n : Nat) : Bool :=
  0xDC00 ≤ n && n < 0xE000

/-- The character of a pair of surrogates. -/
def joinSurrogates (high low : Nat) : Char :=
  Char.ofNat (0x10000 + (high - 0xD800) * 0x400 + (low - 0xDC00))

/-- A result and the text behind it, which is shorter than `s`. -/
abbrev Read (α : Type) (s : List Char) : Type :=
  Except Fault (α × {rest : List Char // rest.length < s.length})

/-- Half a pair of surrogates: a fault, or a replacement character where nobody looks. -/
def readLone (rules : Rules) {s : List Char} (rest : List Char) (h : rest.length < s.length) :
    Read Char s :=
  if rules.paired then .error ⟨.loneSurrogate, rest⟩ else .ok ('\uFFFD', ⟨rest, h⟩)

/-- The second half of a pair whose first half, `high`, stands before `rest`. -/
def readPair (rules : Rules) (high : Nat) {s : List Char} (rest : List Char)
    (h : rest.length < s.length) : Read Char s :=
  match rest, h with
  | '\\' :: 'u' :: a :: b :: c :: d :: after, h =>
      match hexValue4? a b c d with
      | none => .error ⟨.invalidEscape, a :: b :: c :: d :: after⟩
      | some low =>
          if isTrailing low then
            .ok (joinSurrogates high low, ⟨after, by simp only [List.length_cons] at h; omega⟩)
          else readLone rules _ h
  | rest, h => readLone rules rest h

/-- The character of four hexadecimal digits, with those of a second escape if they are the
first half of a pair. -/
def readUnicode (rules : Rules) (s : List Char) : Read Char s :=
  match s with
  | a :: b :: c :: d :: rest =>
      match hexValue4? a b c d with
      | none => .error ⟨.invalidEscape, a :: b :: c :: d :: rest⟩
      | some n =>
          if isLeading n then readPair rules n rest (by simp only [List.length_cons]; omega)
          else if isTrailing n then
            readLone rules rest (by simp only [List.length_cons]; omega)
          else .ok (Char.ofNat n, ⟨rest, by simp only [List.length_cons]; omega⟩)
  | _ => .error ⟨.endInString, []⟩

/-- What stands behind a backslash. -/
def readEscape (rules : Rules) (s : List Char) : Read Char s :=
  match s with
  | [] => .error ⟨.endInString, []⟩
  | 'u' :: rest => (readUnicode rules rest).map fun (c, ⟨r, h⟩) => (c, ⟨r, Nat.lt_succ_of_lt h⟩)
  | c :: rest =>
      match unescape? c with
      | none => .error ⟨.invalidEscape, c :: rest⟩
      | some c => .ok (c, ⟨rest, Nat.lt_succ_self _⟩)

/-- One character of a string, or `none` for the closing quote. -/
def readChar (rules : Rules) (s : List Char) : Read (Option Char) s :=
  match s with
  | [] => .error ⟨.endInString, []⟩
  | '"' :: rest => .ok (none, ⟨rest, Nat.lt_succ_self _⟩)
  | '\\' :: rest =>
      (readEscape rules rest).map fun (c, ⟨r, h⟩) => (some c, ⟨r, Nat.lt_succ_of_lt h⟩)
  | c :: rest =>
      if c.toNat < 0x20 then .error ⟨.controlCharacter, c :: rest⟩
      else .ok (some c, ⟨rest, Nat.lt_succ_self _⟩)

/-- A string behind its opening quote. -/
def readString (rules : Rules) (s : List Char) : Read (List Char) s :=
  match readChar rules s with
  | .error fault => .error fault
  | .ok (none, rest) => .ok ([], rest)
  | .ok (some c, ⟨rest, h⟩) =>
      (readString rules rest).map fun (cs, ⟨r, h'⟩) => (c :: cs, ⟨r, Nat.lt_trans h' h⟩)
termination_by s.length

/-! ### Numbers -/

/-- The longest row of digits. -/
def readDigits (s : List Char) : List Char × Tail s :=
  (s.takeWhile Text.isDigit, ⟨s.dropWhile Text.isDigit, (List.dropWhile_suffix _).length_le⟩)

/-- The digits behind a point, or none without a point. -/
def readFraction (s : List Char) : Except Fault (List Char × Tail s) :=
  match s with
  | '.' :: rest =>
      match readDigits rest with
      | ([], ⟨after, _⟩) => .error ⟨.invalidNumber, after⟩
      | (digits, ⟨after, h⟩) => .ok (digits, ⟨after, Nat.le_succ_of_le h⟩)
  | s => .ok ([], ⟨s, Nat.le_refl _⟩)

/-- The sign and the digits of an exponent behind its letter. -/
def readExponentDigits (negative : Bool) (s : List Char) :
    Except Fault (Option Exponent × Tail s) :=
  match readDigits s with
  | ([], ⟨after, _⟩) => .error ⟨.invalidNumber, after⟩
  | (digits, after) => .ok (some ⟨negative, digits⟩, after)

def readExponent (s : List Char) : Except Fault (Option Exponent × Tail s) :=
  match s with
  | [] => .ok (none, ⟨[], Nat.le_refl _⟩)
  | c :: rest =>
      if c = 'e' ∨ c = 'E' then
        match rest with
        | '+' :: rest => (readExponentDigits false rest).map fun (e, ⟨r, h⟩) =>
            (e, ⟨r, Nat.le_succ_of_le (Nat.le_succ_of_le h)⟩)
        | '-' :: rest => (readExponentDigits true rest).map fun (e, ⟨r, h⟩) =>
            (e, ⟨r, Nat.le_succ_of_le (Nat.le_succ_of_le h)⟩)
        | rest => (readExponentDigits false rest).map fun (e, ⟨r, h⟩) =>
            (e, ⟨r, Nat.le_succ_of_le h⟩)
      else .ok (none, ⟨c :: rest, Nat.le_refl _⟩)

/-- The whole part has a digit, and no zero before other digits. -/
def isWhole (digits : List Char) : Bool :=
  match digits with
  | [] => false
  | '0' :: rest => rest.isEmpty
  | _ => true

/-- A number of which the sign, and then perhaps the first digit, has been read. -/
def readNumber (rules : Rules) (negative : Bool) (first s : List Char) :
    Except Fault (Number × Tail s) :=
  match readDigits s with
  | (digits, ⟨rest₁, h₁⟩) =>
      if isWhole (first ++ digits) then do
        let (fraction, ⟨rest₂, h₂⟩) ← readFraction rest₁
        let (exponent, ⟨rest₃, h₃⟩) ← readExponent rest₂
        let number : Number := ⟨negative, first ++ digits, fraction, exponent⟩
        if rules.finite && !number.isFinite then throw ⟨.numberOutOfRange, rest₃⟩
        return (number, ⟨rest₃, Nat.le_trans h₃ (Nat.le_trans h₂ h₁)⟩)
      else .error ⟨.invalidNumber, rest₁⟩

/-! ### Values -/

/-- The rest of a name whose first character has been read. -/
def readIdent (name : List Char) (value : Json) (s : List Char) : Except Fault (Json × Tail s) :=
  if name.isPrefixOf s then .ok (value, ⟨s.drop name.length, (List.drop_suffix _ _).length_le⟩)
  else .error ⟨.expectedIdent, s⟩

/-- The colon between the name and the value of a field. -/
def readColon (s : List Char) : Except Fault (Tail s) :=
  match skip s with
  | ⟨[], _⟩ => .error ⟨.endInObject, []⟩
  | ⟨c :: rest, h⟩ =>
      if c = ':' then .ok ⟨rest, Nat.le_of_succ_le h⟩ else .error ⟨.expectedColon, c :: rest⟩

/-- The name of a field with its colon. -/
def readName (rules : Rules) (s : List Char) : Read String s :=
  match skip s with
  | ⟨[], _⟩ => .error ⟨.endInObject, []⟩
  | ⟨c :: rest, h⟩ =>
      if c = '"' then do
        let (name, ⟨r₁, h₁⟩) ← readString rules rest
        let ⟨r₂, h₂⟩ ← readColon r₁
        return (String.ofList name,
          ⟨r₂, Nat.lt_of_le_of_lt h₂ (Nat.lt_trans h₁ (Nat.lt_of_succ_le h))⟩)
      else .error ⟨.keyNotString, c :: rest⟩

mutual

/-- The value at the start of a text, perhaps behind blanks. -/
def readValue (rules : Rules) (s : List Char) : Read Json s :=
  match skip s with
  | ⟨[], _⟩ => .error ⟨.endInValue, []⟩
  | ⟨c :: rest, h⟩ => do
      have h := Nat.lt_of_succ_le h
      let (value, ⟨r, h'⟩) ← readFrom rules c rest
      return (value, ⟨r, Nat.lt_of_le_of_lt h' h⟩)
termination_by (s.length, 0)

/-- The value that begins with `c`. -/
def readFrom (rules : Rules) (c : Char) (s : List Char) : Except Fault (Json × Tail s) :=
  if c = 'n' then readIdent ['u', 'l', 'l'] null s
  else if c = 't' then readIdent ['r', 'u', 'e'] (bool true) s
  else if c = 'f' then readIdent ['a', 'l', 's', 'e'] (bool false) s
  else if c = '"' then
    (readString rules s).map fun (cs, ⟨r, h⟩) => (str (String.ofList cs), ⟨r, Nat.le_of_lt h⟩)
  else if c = '-' then (readNumber rules true [] s).map fun (n, r) => (number n, r)
  else if Text.isDigit c then (readNumber rules false [c] s).map fun (n, r) => (number n, r)
  else if c = '[' then
    match rules.enter? with
    | none => .error ⟨.tooDeep, c :: s⟩
    | some rules =>
        (readItems rules s).map fun (items, ⟨r, h⟩) => (array items, ⟨r, Nat.le_of_lt h⟩)
  else if c = '\x7b' then
    match rules.enter? with
    | none => .error ⟨.tooDeep, c :: s⟩
    | some rules =>
        (readFields rules (fun _ => rules) s).map fun (fields, ⟨r, h⟩) =>
          (object fields, ⟨r, Nat.le_of_lt h⟩)
  else .error ⟨.expectedValue, c :: s⟩
termination_by (s.length, 4)

/-- The items of an array behind its opening bracket. -/
def readItems (rules : Rules) (s : List Char) : Read (List Json) s :=
  match skip s with
  | ⟨[], _⟩ => .error ⟨.endInArray, []⟩
  | ⟨c :: rest, h⟩ =>
      if c = ']' then .ok ([], ⟨rest, Nat.lt_of_succ_le h⟩) else readSomeItems rules s
termination_by (s.length, 3)

/-- At least one item, up to the closing bracket. -/
def readSomeItems (rules : Rules) (s : List Char) : Read (List Json) s := do
  let (item, ⟨r₁, h₁⟩) ← readValue rules s
  match skip r₁ with
  | ⟨[], _⟩ => throw ⟨.endInArray, []⟩
  | ⟨c :: rest, h⟩ =>
      have h := Nat.lt_trans (Nat.lt_of_succ_le h) h₁
      if c = ']' then return ([item], ⟨rest, h⟩)
      else if c = ',' then
        let (items, ⟨r₂, h₂⟩) ← readSomeItems rules rest
        return (item :: items, ⟨r₂, Nat.lt_trans h₂ h⟩)
      else throw ⟨.expectedItemEnd, c :: rest⟩
termination_by (s.length, 2)

/-- The fields of an object behind its opening brace, each value by the rules for its name. -/
def readFields (rules : Rules) (rulesFor : String → Rules) (s : List Char) :
    Read (List (String × Json)) s :=
  match skip s with
  | ⟨[], _⟩ => .error ⟨.endInObject, []⟩
  | ⟨c :: rest, h⟩ =>
      if c = '\x7d' then .ok ([], ⟨rest, Nat.lt_of_succ_le h⟩)
      else readSomeFields rules rulesFor s
termination_by (s.length, 3)

/-- At least one field, up to the closing brace. -/
def readSomeFields (rules : Rules) (rulesFor : String → Rules) (s : List Char) :
    Read (List (String × Json)) s := do
  let (name, ⟨r₁, h₁⟩) ← readName rules s
  let (value, ⟨r₂, h₂⟩) ← readValue (rulesFor name) r₁
  match skip r₂ with
  | ⟨[], _⟩ => throw ⟨.endInObject, []⟩
  | ⟨c :: rest, h⟩ =>
      have h := Nat.lt_trans (Nat.lt_trans (Nat.lt_of_succ_le h) h₂) h₁
      if c = '\x7d' then return ([(name, value)], ⟨rest, h⟩)
      else if c = ',' then
        let (fields, ⟨r₃, h₃⟩) ← readSomeFields rules rulesFor rest
        return ((name, value) :: fields, ⟨r₃, Nat.lt_trans h₃ h⟩)
      else throw ⟨.expectedFieldEnd, c :: rest⟩
termination_by (s.length, 2)

end

/-- Nothing but blanks is left behind a document. -/
def atEnd {α : Type} (a : α) (rest : List Char) : Except Fault α :=
  match skip rest with
  | ⟨[], _⟩ => .ok a
  | ⟨rest, _⟩ => .error ⟨.trailingCharacters, rest⟩

/-- The one value that a text holds. -/
def read (text : List Char) : Except Fault Json :=
  match readValue .strict text with
  | .error fault => .error fault
  | .ok (value, ⟨rest, _⟩) => atEnd value rest

end ScriptConsole.Json
