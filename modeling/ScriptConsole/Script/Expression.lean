import ScriptConsole.Script.Scope
import ScriptConsole.Script.Token
import ScriptConsole.Text.Blank

/-!
Expressions. Evaluation reads the tokens once from left to right and makes its calls as it goes,
so what stands before a syntax error has been done when the error is found.

* comparison: a sum, or two sums with `==` or `!=` between them
* sum: terms with `+` between them
* term: a literal, a comparison in parentheses, a name, or a name with arguments in parentheses
-/

namespace ScriptConsole.Script

namespace Expression

/-- A part of `ts` that is left after at least one token. -/
abbrev Rest (ts : List Token) : Type :=
  {rest : List Token // rest.length < ts.length}

def lookup (scope : Scope) (name : String) : Except Fault Value :=
  if name = "None" then .ok .nothing
  else if name = "True" then .ok (.bool true)
  else if name = "False" then .ok (.bool false)
  else match scope.get? name with
    | some value => .ok value
    | none => .error (.undefined name)

/-- The sum of two integers in range, or two strings one after the other. -/
def add : Value → Value → Except Fault Value
  | .int a, .int b =>
      match Text.toInt64? (a.toInt + b.toInt) with
      | some n => .ok (.int n)
      | none => .error .additionOverflow
  | .str a, .str b => .ok (.str (a ++ b))
  | left, right => .error (.unsupportedSum left right)

def single (function : String) : List Value → Except Fault Value
  | [value] => .ok value
  | values => .error (.arity function .exactlyOne values.length)

def optional (function : String) : List Value → Except Fault (Option Value)
  | [] => .ok none
  | [value] => .ok (some value)
  | values => .error (.arity function .atMostOne values.length)

/-- The number of characters, as far as 64 bits reach. -/
def countChars (text : String) : Int64 :=
  Int64.ofNat (min text.length 9223372036854775807)

def lengthOf : Value → Except Fault Value
  | .str text => .ok (.int (countChars text))
  | value => .error (.noLength value)

def toInteger : Value → Except Fault Value
  | .int n => .ok (.int n)
  | .bool b => .ok (.int (if b then 1 else 0))
  | .str text =>
      match Text.readInt64? (Text.trim text.toList) with
      | some n => .ok (.int n)
      | none => .error (.invalidInteger text)
  | value => .error (.notANumber value)

/-- The one text that a stream is to get. -/
def textToWrite (scope : Scope) (arguments : List Value) : Except Fault String := do
  if scope.isLoaded "sys" then
    match ← single "write" arguments with
    | .str text => return text
    | value => throw (.notText value)
  else throw (.undefined "sys")

/-- The name is that of an exception. -/
def namesException (name : String) : Bool :=
  (Text.before? ['E', 'r', 'r', 'o', 'r'] name.toList).isSome || name == "Exception"

/-- A result that needs no host. -/
def pass {α : Type} (result : Except Fault α) : Action α :=
  ExceptT.mk (.done result)

/-- The value of a call whose arguments are known. -/
def call (scope : Scope) (name : String) (arguments : List Value) : Action Value := do
  if name = "print" then
    say (" ".intercalate (arguments.map Value.text))
    return .nothing
  else if name = "input" then
    let prompt ← pass (optional "input" arguments)
    return .str (← ask (prompt.map Value.text))
  else if name = "str" then
    return .str (← pass (single "str" arguments)).text
  else if name = "repr" then
    return .str (← pass (single "repr" arguments)).display
  else if name = "len" then
    pass (single "len" arguments >>= lengthOf)
  else if name = "int" then
    pass (single "int" arguments >>= toInteger)
  else if name = "sys.stdout.write" then
    let text ← pass (textToWrite scope arguments)
    say text
    return .int (countChars text)
  else if name = "sys.stderr.write" then
    let text ← pass (textToWrite scope arguments)
    complain text
    return .int (countChars text)
  else if namesException name then
    let message ← pass (optional name arguments)
    return .exception name ((message.map Value.text).getD "")
  else
    throw (.notCallable (← pass (lookup scope name)))

mutual

/-- The value of the comparison at the start of `ts`, and the tokens after it. -/
def comparison (scope : Scope) (ts : List Token) : Action (Value × Rest ts) := do
  let (left, ⟨rest, h⟩) ← sum scope ts
  match rest, h with
  | .equal :: rest, h =>
      have h := Nat.lt_of_succ_lt h
      let (right, ⟨rest', h'⟩) ← sum scope rest
      return (.bool (left == right), ⟨rest', Nat.lt_trans h' h⟩)
  | .notEqual :: rest, h =>
      have h := Nat.lt_of_succ_lt h
      let (right, ⟨rest', h'⟩) ← sum scope rest
      return (.bool (left != right), ⟨rest', Nat.lt_trans h' h⟩)
  | rest, h => return (left, ⟨rest, h⟩)
termination_by (ts.length, 3)

def sum (scope : Scope) (ts : List Token) : Action (Value × Rest ts) := do
  let (value, ⟨rest, h⟩) ← term scope ts
  let (value, ⟨rest', h'⟩) ← sumFrom scope value rest
  return (value, ⟨rest', Nat.lt_of_le_of_lt h' h⟩)
termination_by (ts.length, 2)

/-- A value and the terms that follow it, each after a plus sign. -/
def sumFrom (scope : Scope) (value : Value) (ts : List Token) :
    Action (Value × {rest : List Token // rest.length ≤ ts.length}) :=
  match ts with
  | .plus :: ts => do
      let (right, ⟨rest, h⟩) ← term scope ts
      let value ← pass (add value right)
      have h := Nat.lt_succ_of_lt h
      let (value, ⟨rest', h'⟩) ← sumFrom scope value rest
      return (value, ⟨rest', Nat.le_trans h' (Nat.le_of_lt h)⟩)
  | ts => return (value, ⟨ts, Nat.le_refl _⟩)
termination_by (ts.length, 1)

def term (scope : Scope) (ts : List Token) : Action (Value × Rest ts) :=
  match ts with
  | .int n :: rest => return (.int n, ⟨rest, Nat.lt_succ_self _⟩)
  | .str text :: rest => return (.str text, ⟨rest, Nat.lt_succ_self _⟩)
  | .leftParen :: ts => do
      let (value, ⟨rest, h⟩) ← comparison scope ts
      match rest, h with
      | .rightParen :: rest, h =>
          return (value, ⟨rest, Nat.lt_succ_of_lt (Nat.lt_of_succ_lt h)⟩)
      | _, _ => throw .invalidSyntax
  | .name name :: .leftParen :: ts => do
      let (values, ⟨rest, h⟩) ← arguments scope ts
      let value ← call scope name values
      return (value, ⟨rest, Nat.lt_succ_of_lt (Nat.lt_succ_of_lt h)⟩)
  | .name name :: rest => do
      let value ← pass (lookup scope name)
      return (value, ⟨rest, Nat.lt_succ_self _⟩)
  | _ => throw .invalidSyntax
termination_by (ts.length, 1)

/-- The arguments of a call, up to its closing parenthesis. -/
def arguments (scope : Scope) (ts : List Token) : Action (List Value × Rest ts) :=
  match ts with
  | .rightParen :: rest => return ([], ⟨rest, Nat.lt_succ_self _⟩)
  | ts => argumentsFrom scope ts
termination_by (ts.length, 5)

/-- At least one argument, up to the closing parenthesis of the call. -/
def argumentsFrom (scope : Scope) (ts : List Token) : Action (List Value × Rest ts) := do
  let (value, ⟨rest, h⟩) ← comparison scope ts
  match rest, h with
  | .comma :: rest, h =>
      have h := Nat.lt_of_succ_lt h
      let (values, ⟨rest', h'⟩) ← argumentsFrom scope rest
      return (value :: values, ⟨rest', Nat.lt_trans h' h⟩)
  | .rightParen :: rest, h => return ([value], ⟨rest, Nat.lt_of_succ_lt h⟩)
  | _, _ => throw .missingSeparator
termination_by (ts.length, 4)

end

/-- The value of a list of tokens that is one expression. -/
def evaluate (scope : Scope) (ts : List Token) : Action Value := do
  if ts.isEmpty then throw .missingExpression
  let (value, ⟨rest, _⟩) ← comparison scope ts
  if rest.isEmpty then return value else throw .invalidSyntax

end Expression
end ScriptConsole.Script
