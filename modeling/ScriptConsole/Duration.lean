import ScriptConsole.Text.Decimal

/-!
Time limits in whole milliseconds and their short text form.
-/

namespace ScriptConsole

structure Duration where
  milliseconds : Nat
  deriving DecidableEq

namespace Duration

/-- Three decimals after the point, of which zeros at the end are left out. -/
def fraction (thousandths : Nat) : List Char :=
  let digits := (Text.decimal (1000 + thousandths)).drop 1
  match (digits.reverse.dropWhile (· == '0')).reverse with
  | [] => []
  | kept => '.' :: kept

/-- Whole seconds with a fraction from one second on, milliseconds below, and `0ns` for
nothing. -/
def text (d : Duration) : String :=
  let n := d.milliseconds
  if n = 0 then "0ns"
  else if n < 1000 then String.ofList (Text.decimal n ++ ['m', 's'])
  else String.ofList (Text.decimal (n / 1000) ++ fraction (n % 1000) ++ ['s'])

end Duration
end ScriptConsole
