import ScriptConsole.Json.Reader

/-!
Records in JSON: the fields by name in any order, or the values alone in a fixed order. A field
that is not known is ignored, one that is known may stand only once.
-/

namespace ScriptConsole.Json

inductive Body where
  | named (fields : List (String × Json))
  | ordered (items : List Json)

namespace Body

/-- The value of a field that stands at most once; `none` if it stands twice. -/
def single? (fields : List (String × Json)) (name : String) : Option (Option Json) :=
  match fields.filter fun field => field.1 == name with
  | [] => some none
  | [field] => some (some field.2)
  | _ => none

/-- The values of the named fields in order, with `none` for those that are left out. -/
def arrange? (names : List String) : Body → Option (List (Option Json))
  | named fields => names.mapM (single? fields)
  | ordered items =>
      if items.length ≤ names.length then
        some (items.map some ++ List.replicate (names.length - items.length) none)
      else none

end Body

/-- The tag of a tagged record, under `key` or as the first item, and the other fields. -/
def tagged? (key : String) : Json → Option (String × Body)
  | object fields =>
      match fields.filter fun field => field.1 == key with
      | [(_, str tag)] => some (tag, .named (fields.filter fun field => field.1 != key))
      | _ => none
  | array (str tag :: items) => some (tag, .ordered items)
  | _ => none

def toText? : Json → Option String
  | str text => some text
  | _ => none

def toBool? : Json → Option Bool
  | bool b => some b
  | _ => none

def toUInt64? : Json → Option UInt64
  | number n => n.toUInt64?
  | _ => none

def toTexts? : Json → Option (List String)
  | array items => items.mapM toText?
  | _ => none

/-- Null, or a value that `f` reads. -/
def toOption? {α : Type} (f : Json → Option α) : Json → Option (Option α)
  | null => some none
  | j => (f j).map some

/-- A field that must be there. -/
def required {α : Type} (f : Json → Option α) (field : Option Json) : Option α :=
  field >>= f

/-- A field that has a value of its own if it is left out. -/
def defaulted {α : Type} (default : α) (f : Json → Option α) : Option Json → Option α
  | none => some default
  | some j => f j

end ScriptConsole.Json
