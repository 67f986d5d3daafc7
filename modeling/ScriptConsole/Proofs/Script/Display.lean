import ScriptConsole.Proofs.Script.Grammar
import ScriptConsole.Proofs.Script.Lexemes

/-!
Displayed values are read back. The form in which a value is displayed is an expression, and the
value of the expression is the value, whatever the names of a script stand for.
-/

namespace ScriptConsole.Script

namespace Value

/-- An exception is called by a name that an exception can have. -/
def WellNamed : Value → Prop
  | exception kind _ => Token.IsName kind ∧ Expression.namesException kind = true
  | _ => True

def IsNegative : Value → Prop
  | int n => n < 0
  | _ => False

/-- The expression that a value is displayed as. -/
def literal : Value → Grammar.Term
  | nothing => .name "None"
  | bool true => .name "True"
  | bool false => .name "False"
  | int n => .int n
  | str text => .str text
  | exception kind message => .call kind (.some (.last (.sum (.terms (.str message) .none))))

end Value

namespace Token

theorem tokenize_nil : tokenize [] = .ok [] := by
  rw [tokenize]

theorem tokenize_name_end {name : String} (h : IsName name) :
    tokenize name.toList = .ok [.name name] := by
  have hread := @tokenize_name [] name h (by rintro _ ⟨⟩)
  rwa [List.append_nil, tokenize_nil] at hread

/-- The displayed form of a value consists of the tokens of its expression. -/
theorem tokenize_display {value : Value} (hnamed : value.WellNamed) (hsign : ¬ value.IsNegative) :
    tokenize value.display.toList = .ok value.literal.tokens := by
  cases value with
  | nothing => exact tokenize_name_end ⟨'N', "one".toList, by decide, by decide, by decide⟩
  | bool b =>
      cases b with
      | true => exact tokenize_name_end ⟨'T', "rue".toList, by decide, by decide, by decide⟩
      | false => exact tokenize_name_end ⟨'F', "alse".toList, by decide, by decide, by decide⟩
  | int n =>
      have hpositive : 0 ≤ n.toInt := by
        rw [Value.IsNegative, Int64.not_lt, Int64.le_iff_toInt_le] at hsign
        exact hsign
      obtain ⟨k, hk⟩ := Int.eq_ofNat_of_zero_le hpositive
      have hread := @tokenize_numeral [] n k hk (by rintro _ ⟨⟩)
      rw [List.append_nil, tokenize_nil] at hread
      have hdisplay : (Value.int n).display.toList = Text.decimal k :=
        String.toList_ofList.trans (congrArg Text.signedDecimal hk)
      rwa [← hdisplay] at hread
  | str text =>
      have hread := tokenize_quote text []
      rwa [List.append_nil, tokenize_nil] at hread
  | exception kind message =>
      have hends : ∀ d ∈ ('(' :: ((Value.quote message).toList ++ [')'])).head?,
          continuesName d = false := by
        rintro _ ⟨⟩
        decide
      have hread := tokenize_name hnamed.1 hends
      rw [tokenize_leftParen, tokenize_quote, tokenize_rightParen, tokenize_nil] at hread
      have hleft : "(".toList = ['('] := rfl
      have hright : ")".toList = [')'] := rfl
      rw [Value.display, String.toList_append, String.toList_append, String.toList_append, hleft,
        hright, List.append_assoc, List.append_assoc, List.singleton_append]
      exact hread

end Token

namespace Expression

variable {scope : Scope}

/-- The value of a text that is one expression. -/
def ofText (scope : Scope) (text : List Char) : Action Value := do
  evaluate scope (← pass (Token.tokenize text))

theorem call_exception {name : String} (hname : namesException name = true) (message : Value) :
    call scope name [message] = return .exception name message.text := by
  have hother : ∀ other ∈ ["print", "input", "str", "repr", "len", "int", "sys.stdout.write",
      "sys.stderr.write"], name ≠ other := by
    have hnone : ∀ other ∈ ["print", "input", "str", "repr", "len", "int", "sys.stdout.write",
      "sys.stderr.write"], namesException other = false := by decide +kernel
    rintro other hmem rfl
    exact Bool.false_ne_true ((hnone name hmem).symm.trans hname)
  simp only [List.forall_mem_cons] at hother
  obtain ⟨hprint, hinput, hstr, hrepr, hlen, hint, hout, herr, -⟩ := hother
  rw [call, if_neg hprint, if_neg hinput, if_neg hstr, if_neg hrepr, if_neg hlen, if_neg hint,
    if_neg hout, if_neg herr, if_pos hname]
  rfl

theorem eval_literal {value : Value} (hnamed : value.WellNamed) :
    value.literal.eval scope = return value := by
  cases value with
  | nothing => rfl
  | bool b => cases b <;> rfl
  | int n => rfl
  | str text => rfl
  | exception kind message => exact call_exception hnamed.2 (.str message)

theorem ofText_display {value : Value} (hnamed : value.WellNamed) (hsign : ¬ value.IsNegative)
    (scope : Scope) : ofText scope value.display.toList = return value := by
  have hvalue : evaluate scope value.literal.tokens = return value := by
    have htree := @evaluate_tokens scope (.sum (.terms value.literal .none))
    rw [Grammar.Comparison.tokens, Grammar.Sum.tokens, Grammar.Addends.tokens, List.append_nil,
      Grammar.Comparison.eval, Grammar.Sum.eval, eval_literal hnamed, pure_bind] at htree
    exact htree
  rw [ofText, Token.tokenize_display hnamed hsign]
  exact hvalue

end Expression
end ScriptConsole.Script
