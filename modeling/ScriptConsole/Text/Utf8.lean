/-!
Texts as UTF-8 bytes. A text for display is made of any bytes: each longest beginning of a
character that the bytes break off, and each byte that begins none, becomes a replacement
character.
-/

namespace ScriptConsole.Text

def toBytes (s : String) : List UInt8 :=
  s.toUTF8.toList

/-- The text of the bytes, if they are well-formed UTF-8. -/
def ofBytes? (bytes : List UInt8) : Option String :=
  String.fromUTF8? ⟨bytes.toArray⟩

/-- The ranges that the bytes behind a first byte must lie in, or `none` for a byte that begins
no character. -/
def continuation? (first : UInt8) : Option (List (UInt8 × UInt8)) :=
  let any : UInt8 × UInt8 := (0x80, 0xBF)
  if first < 0x80 then some []
  else if 0xC2 ≤ first && first ≤ 0xDF then some [any]
  else if first = 0xE0 then some [(0xA0, 0xBF), any]
  else if first = 0xED then some [(0x80, 0x9F), any]
  else if 0xE1 ≤ first && first ≤ 0xEF then some [any, any]
  else if first = 0xF0 then some [(0x90, 0xBF), any, any]
  else if first = 0xF4 then some [(0x80, 0x8F), any, any]
  else if 0xF1 ≤ first && first ≤ 0xF3 then some [any, any, any]
  else none

/-- The number of bytes at the start that lie in the ranges, one range after the other. -/
def matching : List (UInt8 × UInt8) → List UInt8 → Nat
  | range :: ranges, byte :: bytes =>
      if range.1 ≤ byte && byte ≤ range.2 then matching ranges bytes + 1 else 0
  | _, _ => 0

/-- The text of the bytes for display. -/
def displayBytes : List UInt8 → List Char
  | [] => []
  | first :: rest =>
      match continuation? first with
      | none => '\uFFFD' :: displayBytes rest
      | some ranges =>
          let n := matching ranges rest
          let shown : List Char :=
            if n = ranges.length then ((ofBytes? (first :: rest.take n)).getD "").toList
            else ['\uFFFD']
          shown ++ displayBytes (rest.drop n)
termination_by bytes => bytes.length

end ScriptConsole.Text
