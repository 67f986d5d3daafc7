import ScriptConsole.Text.Decimal

/-!
Numbers as JSON writes them. The only numbers that a message carries are whole ones below
`2 ^ 64`; every other literal is only checked.
-/

namespace ScriptConsole.Json

/-- The exponent of a literal: its sign and its digits. -/
structure Exponent where
  negative : Bool
  digits : List Char
  deriving DecidableEq

/-- A number literal. The fraction is empty if the literal has no point. -/
structure Number where
  negative : Bool
  whole : List Char
  fraction : List Char
  exponent : Option Exponent
  deriving DecidableEq

namespace Number

def ofNat (n : Nat) : Number :=
  ⟨false, Text.decimal n, [], none⟩

def writeExponent : Option Exponent → List Char
  | none => []
  | some ⟨false, digits⟩ => 'e' :: digits
  | some ⟨true, digits⟩ => 'e' :: '-' :: digits

def write (n : Number) : List Char :=
  (if n.negative then ['-'] else []) ++ n.whole ++
    (if n.fraction = [] then [] else '.' :: n.fraction) ++ writeExponent n.exponent

/-- The value of a literal without sign, point and exponent, if it is below `2 ^ 64`. -/
def toUInt64? (n : Number) : Option UInt64 :=
  match n with
  | ⟨false, whole, [], none⟩ =>
      let value := Nat.ofDigitChars 10 whole 0
      if value < UInt64.size then some (UInt64.ofNat value) else none
  | _ => none

/-! Whether the double nearest to a literal is finite, where the digits that no longer fit 64
bits are dropped first. -/

def digitValue (c : Char) : Nat :=
  c.toNat - '0'.toNat

/-- Digits before the point: those that fit 64 bits, and how many follow them. -/
def keepWhole (s : Nat × Nat) (c : Char) : Nat × Nat :=
  let next := s.1 * 10 + digitValue c
  if s.2 = 0 ∧ next < UInt64.size then (next, 0) else (s.1, s.2 + 1)

/-- Digits behind the point: those that fit as well, and how many they are; `none` in the last
place says that a digit did not fit. -/
def keepFraction (s : Nat × Option Nat × Nat) (c : Char) : Nat × Option Nat × Nat :=
  let next := s.1 * 10 + digitValue c
  match s.2.1 with
  | none => s
  | some n => if next < UInt64.size then (next, some (n + 1), n + 1) else (s.1, none, n)

/-- The nearest number with at most 53 binary digits, the even one of two. -/
def round53 (n : Nat) : Nat :=
  let excess := Nat.log2 n + 1 - 53
  let unit := Nat.pow 2 excess
  let low := n % unit
  let down := n / unit
  if low * 2 > unit ∨ (low * 2 = unit ∧ down % 2 = 1 ∧ 0 < excess) then (down + 1) * unit
  else down * unit

/-- The power of ten that the exponent of a literal names. -/
def exponentValue : Option Exponent → Int
  | none => 0
  | some ⟨negative, digits⟩ =>
      let value : Int := Nat.ofDigitChars 10 digits 0
      if negative then -value else value

/-- The least number that is rounded to infinity: half a unit above the largest double. -/
def infinite : Nat :=
  Nat.pow 2 1024 - Nat.pow 2 970

/-- The literal denotes a double that is not infinite. -/
def isFinite (n : Number) : Bool :=
  let (kept, dropped) := n.whole.foldl keepWhole (0, 0)
  let (kept, _, places) := n.fraction.foldl keepFraction (kept, some 0, 0)
  let power : Int := dropped - places + exponentValue n.exponent
  if kept = 0 then true
  else if n.fraction = [] ∧ n.exponent = none ∧ dropped = 0 then true
  else if power < 0 then true
  else if 308 < power then false
  else decide (round53 kept * round53 (Nat.pow 10 power.toNat) < infinite)

end Number
end ScriptConsole.Json
