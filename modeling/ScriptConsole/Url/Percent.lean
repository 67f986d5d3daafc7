import ScriptConsole.Text.Utf8

/-!
Bytes of a URL as percent signs with two hexadecimal digits. Writing protects every byte that
reading would strip, split at, decode or take for a dot segment.
-/

namespace ScriptConsole.Url

def hexUpper (n : Nat) : Char :=
  (Nat.digitChar n).toUpper

/-- The characters besides controls, blanks and non-ASCII bytes that a path segment must not
hold as they are. -/
def reserved : List Char :=
  ['"', '#', '<', '>', '?', '`', '\x7b', '\x7d', '/', '%', '\\']

def isPlain (b : UInt8) : Bool :=
  0x20 < b && b < 0x7F && !reserved.contains (Char.ofNat b.toNat)

def encodeByte (b : UInt8) : List Char :=
  if isPlain b then [Char.ofNat b.toNat]
  else ['%', hexUpper (b.toNat / 16), hexUpper (b.toNat % 16)]

/-- The value of a hexadecimal digit given as a byte. -/
def hexValue? (b : UInt8) : Option UInt8 :=
  if 48 ≤ b && b ≤ 57 then some (b - 48)
  else if 97 ≤ b && b ≤ 102 then some (b - 87)
  else if 65 ≤ b && b ≤ 70 then some (b - 55)
  else none

/-- Put a byte in place of every percent sign with two hexadecimal digits behind it. -/
def decodePercent : List UInt8 → List UInt8
  | 37 :: a :: b :: rest =>
      match hexValue? a, hexValue? b with
      | some x, some y => (x * 16 + y) :: decodePercent rest
      | _, _ => 37 :: decodePercent (a :: b :: rest)
  | b :: rest => b :: decodePercent rest
  | [] => []

def segmentBytes (segment : List Char) : List UInt8 :=
  decodePercent (Text.toBytes (String.ofList segment))

end ScriptConsole.Url
