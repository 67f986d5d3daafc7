/-!
Decimal numerals of whole numbers, and the reading of a signed 64-bit integer.
-/

namespace ScriptConsole.Text

/-- The decimal numeral, without leading zeros. -/
def decimal (n : Nat) : List Char :=
  Nat.toDigits 10 n

def isDigit (c : Char) : Bool :=
  '0' ≤ c && c ≤ '9'

/-- The number that a row of digits names; `none` for no digit or another character. -/
def readDecimal? (s : List Char) : Option Nat :=
  if s = [] then none
  else if s.all isDigit then some (Nat.ofDigitChars 10 s 0)
  else none

/-- The decimal numeral of an integer, with a minus sign if it is negative. -/
def signedDecimal : Int → List Char
  | .ofNat n => decimal n
  | .negSucc n => '-' :: decimal (n + 1)

/-- The 64-bit integer equal to `n`, if `n` is in range. -/
def toInt64? (n : Int) : Option Int64 :=
  if -9223372036854775808 ≤ n ∧ n ≤ 9223372036854775807 then some (Int64.ofInt n) else none

/-- A row of digits after at most one sign, as a 64-bit integer if it is in range. -/
def readInt64? (s : List Char) : Option Int64 :=
  match s with
  | '-' :: digits => do toInt64? (-(← readDecimal? digits))
  | '+' :: digits => do toInt64? (← readDecimal? digits)
  | digits => do toInt64? (← readDecimal? digits)

end ScriptConsole.Text
