import ScriptConsole.Text.Decimal

/-!
The values of the script language, their text and their displayed form. The displayed form of
a string is a quoted literal that reads back as the string.
-/

namespace ScriptConsole.Script

inductive Value where
  | nothing
  | bool (b : Bool)
  | int (n : Int64)
  | str (text : String)
  | exception (kind message : String)
  deriving DecidableEq

namespace Value

def typeName : Value → String
  | nothing => "NoneType"
  | bool _ => "bool"
  | int _ => "int"
  | str _ => "str"
  | exception _ _ => "Exception"

/-- The value counts as true in a condition. -/
def isTruthy : Value → Bool
  | nothing => false
  | bool b => b
  | int n => n != 0
  | str text => text != ""
  | exception _ _ => true

/-- The text that `print` and `str` give. -/
def text : Value → String
  | nothing => "None"
  | bool true => "True"
  | bool false => "False"
  | int n => String.ofList (Text.signedDecimal n.toInt)
  | str text => text
  | exception _ message => message

/-- Backslashes and single quotes after a backslash each. -/
def escape : List Char → List Char
  | [] => []
  | c :: rest => if c = '\\' ∨ c = '\'' then '\\' :: c :: escape rest else c :: escape rest

/-- A string literal in single quotes. -/
def quote (text : String) : String :=
  String.ofList ('\'' :: (escape text.toList ++ ['\'']))

/-- The form in which a result is shown. -/
def display : Value → String
  | str text => quote text
  | exception kind message => kind ++ "(" ++ quote message ++ ")"
  | value => value.text

end Value
end ScriptConsole.Script
