import ScriptConsole.Error
import ScriptConsole.Script.Value

/-!
Why a script stops: every exception that the language itself raises, those that a script
raises, and failures of host services. `Fault.toScriptError` gives the kind and the message that
a user sees.
-/

namespace ScriptConsole.Script

/-- How many arguments a function takes. -/
inductive Arity where
  | exactlyOne
  | atMostOne
  deriving DecidableEq

def Arity.text : Arity → String
  | exactlyOne => "exactly 1"
  | atMostOne => "at most 1"

inductive Fault where
  | unexpectedIndent (line : Nat)
  | missingBlock (header : Nat)
  | unsupportedBlock (line : Nat)
  | nestedBlock (line : Nat)
  | invalidCharacter (c : Char)
  | unterminatedString
  | missingExpression
  | invalidSyntax
  | missingSeparator
  | literalTooLarge
  | additionOverflow
  | undefined (name : String)
  | missingModule (name : String)
  | arity (function : String) (expected : Arity) (given : Nat)
  | notCallable (value : Value)
  | noLength (value : Value)
  | notANumber (value : Value)
  | notText (value : Value)
  | notAnException (value : Value)
  | unsupportedSum (left right : Value)
  | invalidInteger (text : String)
  | raised (kind message : String)
  | host (cause : HostError)

namespace Fault

def kind : Fault → String
  | unexpectedIndent _ | missingBlock _ => "IndentationError"
  | unsupportedBlock _ | nestedBlock _ | invalidCharacter _ | unterminatedString
  | missingExpression | invalidSyntax | missingSeparator => "SyntaxError"
  | literalTooLarge | additionOverflow => "OverflowError"
  | undefined _ => "NameError"
  | missingModule _ => "ModuleNotFoundError"
  | arity _ _ _ | notCallable _ | noLength _ | notANumber _ | notText _ | notAnException _
  | unsupportedSum _ _ => "TypeError"
  | invalidInteger _ => "ValueError"
  | raised kind _ => kind
  | host cause => cause.exceptionKind

def numeral (n : Nat) : String :=
  String.ofList (Text.decimal n)

def message : Fault → String
  | unexpectedIndent line => "unexpected indent (line " ++ numeral line ++ ")"
  | missingBlock header => "expected an indented block after line " ++ numeral header
  | unsupportedBlock line =>
      "only 'if' / 'else' blocks are supported (line " ++ numeral line ++ ")"
  | nestedBlock line => "nested blocks are not supported (line " ++ numeral line ++ ")"
  | invalidCharacter c => "invalid character '" ++ String.ofList [c] ++ "'"
  | unterminatedString => "unterminated string literal"
  | missingExpression => "expected an expression"
  | invalidSyntax => "invalid syntax"
  | missingSeparator => "expected ',' or ')'"
  | literalTooLarge => "integer literal too large"
  | additionOverflow => "integer addition overflowed"
  | undefined name => "name '" ++ name ++ "' is not defined"
  | missingModule name => "No module named '" ++ name ++ "'"
  | arity function expected given =>
      function ++ "() takes " ++ expected.text ++ " argument(s) (" ++ numeral given ++ " given)"
  | notCallable value => "'" ++ value.typeName ++ "' object is not callable"
  | noLength value => "object of type '" ++ value.typeName ++ "' has no len()"
  | notANumber value =>
      "int() argument must be a string or a number, not '" ++ value.typeName ++ "'"
  | notText value => "write() argument must be str, not " ++ value.typeName
  | notAnException value =>
      "exceptions must derive from BaseException, not " ++ value.typeName
  | unsupportedSum left right =>
      "unsupported operand type(s) for +: '" ++ left.typeName ++ "' and '" ++
        right.typeName ++ "'"
  | invalidInteger text =>
      "invalid literal for int() with base 10: " ++ Value.quote text
  | raised _ message => message
  | host cause => cause.message

def toScriptError (f : Fault) : ScriptError :=
  ⟨f.kind, f.message⟩

end Fault
end ScriptConsole.Script
