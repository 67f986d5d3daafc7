import ScriptConsole.Json.Number

/-!
JSON values and their compact text. An object keeps the order and the repetitions of its
fields.
-/

namespace ScriptConsole

inductive Json where
  | null
  | bool (b : Bool)
  | number (n : Json.Number)
  | str (text : String)
  | array (items : List Json)
  | object (fields : List (String × Json))

namespace Json

def hexDigit (n : Nat) : Char :=
  Nat.digitChar n

/-- A character inside a string. -/
def escape (c : Char) : List Char :=
  if c = '"' then ['\\', '"']
  else if c = '\\' then ['\\', '\\']
  else if c = '\x08' then ['\\', 'b']
  else if c = '\x0c' then ['\\', 'f']
  else if c = '\n' then ['\\', 'n']
  else if c = '\r' then ['\\', 'r']
  else if c = '\t' then ['\\', 't']
  else if c.toNat < 0x20 then
    ['\\', 'u', '0', '0', hexDigit (c.toNat / 16), hexDigit (c.toNat % 16)]
  else [c]

def writeString (text : String) : List Char :=
  '"' :: (text.toList.flatMap escape ++ ['"'])

mutual

/-- The compact text of a value, without blanks. -/
def write : Json → List Char
  | null => ['n', 'u', 'l', 'l']
  | bool true => ['t', 'r', 'u', 'e']
  | bool false => ['f', 'a', 'l', 's', 'e']
  | number n => n.write
  | str text => writeString text
  | array items => '[' :: writeItems items
  | object fields => '{' :: writeFields fields

/-- The items of an array and its closing bracket. -/
def writeItems : List Json → List Char
  | [] => [']']
  | item :: items => item.write ++ writeMoreItems items

def writeMoreItems : List Json → List Char
  | [] => [']']
  | item :: items => ',' :: (item.write ++ writeMoreItems items)

/-- The fields of an object and its closing brace. -/
def writeFields : List (String × Json) → List Char
  | [] => ['}']
  | (name, value) :: fields =>
      writeString name ++ ':' :: (value.write ++ writeMoreFields fields)

def writeMoreFields : List (String × Json) → List Char
  | [] => ['}']
  | (name, value) :: fields =>
      ',' :: (writeString name ++ ':' :: (value.write ++ writeMoreFields fields))

end

def ofNat (n : Nat) : Json :=
  number (.ofNat n)

def ofTexts (texts : List String) : Json :=
  array (texts.map str)

/-- The value, or null for none. -/
def ofOption {α : Type} (f : α → Json) : Option α → Json
  | none => null
  | some a => f a

def text (j : Json) : String :=
  String.ofList j.write

end Json
end ScriptConsole
