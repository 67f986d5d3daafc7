import ScriptConsole.Proofs.Script.Comments
import ScriptConsole.Proofs.Script.Display

/-!
Sums of integers. A statement that adds up literals and converted strings shows the exact sum, or it
fails: at a literal that does not fit 64 bits before anything is added, and otherwise at the first
string or the first partial sum, from left to right, that does not fit.
-/

namespace ScriptConsole.Script

open Text (Fits64)

/-! ### Integers in a script -/

/-- Digits, and underscores anywhere behind the first of them. -/
structure Numeral where
  first : Char
  more : List Char
  isDigit_first : Text.isDigit first = true
  grouped : ∀ c ∈ more, Text.isDigit c = true ∨ c = '_'

namespace Numeral

def text (numeral : Numeral) : List Char :=
  numeral.first :: numeral.more

def value (numeral : Numeral) : Int :=
  Nat.ofDigitChars 10 (numeral.text.filter Text.isDigit) 0

end Numeral

inductive Sign where
  | none
  | plus
  | minus

def Sign.text : Sign → List Char
  | none => []
  | plus => ['+']
  | minus => ['-']

def Sign.apply : Sign → Int → Int
  | none, n => n
  | plus, n => n
  | minus, n => -n

/-- A decimal string: digits, perhaps with a sign before them, and blanks at both ends. -/
structure DecimalString where
  before : List Char
  sign : Sign
  digits : List Char
  after : List Char
  allBlank_before : Text.allBlank before = true
  digits_ne_nil : digits ≠ []
  isDigit_digits : ∀ c ∈ digits, Text.isDigit c = true
  allBlank_after : Text.allBlank after = true

namespace DecimalString

def text (decimal : DecimalString) : List Char :=
  decimal.before ++ (decimal.sign.text ++ decimal.digits ++ decimal.after)

def value (decimal : DecimalString) : Int :=
  decimal.sign.apply (Nat.ofDigitChars 10 decimal.digits 0)

end DecimalString

inductive Summand where
  | literal (numeral : Numeral)
  | converted (decimal : DecimalString)

def Summand.value : Summand → Int
  | literal numeral => numeral.value
  | converted decimal => decimal.value

/-- The sum from left to right, without bounds. -/
def total (summands : List Summand) : Int :=
  summands.foldl (fun sum summand => sum + summand.value) 0

def Spaces (gap : List Char) : Prop :=
  ∀ c ∈ gap, c = ' ' ∨ c = '\t'

/-- How a summand is written. A string may be spelled in any way between either quotes. -/
inductive Summand.Writes : Summand → List Char → Prop where
  | literal (numeral : Numeral) : Writes (.literal numeral) numeral.text
  | converted {decimal : DecimalString} {quote : Char} {body gap inner outer : List Char}
      (hquote : quote = '\'' ∨ quote = '"') (hbody : Token.Quotes quote decimal.text body)
      (hgap : Spaces gap) (hinner : Spaces inner) (houter : Spaces outer) :
      Writes (.converted decimal) ("int".toList ++
        (gap ++ '(' :: (inner ++ quote :: (body ++ quote :: (outer ++ [')'])))))

/-- How a sum is written: a summand, and more of them behind plus signs. -/
inductive WritesSum : Summand → List Summand → List Char → Prop where
  | last {summand : Summand} {text : List Char} (h : summand.Writes text) :
      WritesSum summand [] text
  | plus {summand next : Summand} {more : List Summand} {text before after rest : List Char}
      (h : summand.Writes text) (hbefore : Spaces before) (hafter : Spaces after)
      (hmore : WritesSum next more rest) :
      WritesSum summand (next :: more) (text ++ (before ++ '+' :: (after ++ rest)))

/-- Every summand and every partial sum fits 64 bits. -/
structure Exact (summands : List Summand) : Prop where
  terms : ∀ summand ∈ summands, Fits64 summand.value
  sums : ∀ first, first <+: summands → Fits64 (total first)

/-- Why there is no sum. A literal that is too large comes before all else; of the strings and the
partial sums it is the first that does not fit, where all before it is exact. -/
inductive Refused (summands : List Summand) : Fault → Prop where
  | literal {numeral : Numeral} (hmem : .literal numeral ∈ summands)
      (hlarge : ¬ Fits64 numeral.value) : Refused summands .literalTooLarge
  | string {before after : List Summand} {decimal : DecimalString}
      (hliterals : ∀ numeral, .literal numeral ∈ summands → Fits64 numeral.value)
      (hsplit : summands = before ++ .converted decimal :: after) (hbefore : Exact before)
      (hlarge : ¬ Fits64 decimal.value) :
      Refused summands (.invalidInteger (String.ofList decimal.text))
  | sum {before after : List Summand} {summand : Summand}
      (hliterals : ∀ numeral, .literal numeral ∈ summands → Fits64 numeral.value)
      (hsplit : summands = before ++ summand :: after) (hbefore : Exact before)
      (hsummand : Fits64 summand.value) (hlarge : ¬ Fits64 (total (before ++ [summand]))) :
      Refused summands .additionOverflow

theorem total_concat (summands : List Summand) (summand : Summand) :
    total (summands ++ [summand]) = total summands + summand.value := by
  simp [total]

theorem Exact.before {before after : List Summand} (h : Exact (before ++ after)) :
    Exact before where
  terms summand hmem := h.terms summand (List.mem_append_left after hmem)
  sums first hfirst := h.sums first (hfirst.trans (List.prefix_append before after))

theorem exact_nil : Exact [] where
  terms := by rintro _ ⟨⟩
  sums := by
    intro first hfirst
    rw [List.prefix_nil.mp hfirst]
    decide

theorem Exact.total {summands : List Summand} (h : Exact summands) : Fits64 (total summands) :=
  h.sums summands List.prefix_rfl

theorem Exact.concat {summands : List Summand} {summand : Summand} (h : Exact summands)
    (hterm : Fits64 summand.value) (hsum : Fits64 (Script.total (summands ++ [summand]))) :
    Exact (summands ++ [summand]) where
  terms other hmem := by
    rcases List.mem_append.mp hmem with hbefore | hlast
    · exact h.terms other hbefore
    · rwa [List.mem_singleton.mp hlast]
  sums first hfirst := by
    rcases List.prefix_concat_iff.mp hfirst with rfl | hbefore
    · exact hsum
    · exact h.sums first hbefore

/-- A sum is exact, or something is the first thing that does not fit. -/
theorem exact_or_refused (summands : List Summand) :
    Exact summands ∨ ∃ fault, Refused summands fault := by
  by_cases hliterals : ∀ numeral, .literal numeral ∈ summands → Fits64 numeral.value
  swap
  · push Not at hliterals
    obtain ⟨numeral, hmem, hlarge⟩ := hliterals
    exact .inr ⟨_, .literal hmem hlarge⟩
  -- The induction is on how much of the sum is known to be exact.
  suffices h : ∀ before after, summands = before ++ after → Exact before →
      Exact summands ∨ ∃ fault, Refused summands fault from
    h [] summands rfl exact_nil
  intro before after
  induction after generalizing before with
  | nil =>
      intro hsplit hbefore
      rw [hsplit, List.append_nil]
      exact .inl hbefore
  | cons summand after ih =>
      intro hsplit hbefore
      by_cases hterm : Fits64 summand.value
      · by_cases hsum : Fits64 (total (before ++ [summand]))
        · apply ih (before ++ [summand])
          · rw [hsplit, List.append_assoc, List.singleton_append]
          · exact hbefore.concat hterm hsum
        · exact .inr ⟨_, .sum hliterals hsplit hbefore hterm hsum⟩
      · cases summand with
        | literal numeral =>
            exact absurd (hliterals numeral (hsplit ▸ List.mem_append_cons_self)) hterm
        | converted decimal => exact .inr ⟨_, .string hliterals hsplit hbefore hterm⟩

/-! ### Reading one integer -/

theorem not_isBlank_of_isDigit {c : Char} (h : Text.isDigit c = true) : Text.isBlank c = false := by
  have hrange := Text.toNat_of_isDigit h
  simp [Text.isBlank]
  omega

theorem Numeral.readInt?_text (numeral : Numeral) :
    Token.readInt? numeral.text = Text.toInt64? numeral.value := by
  have hfilter : numeral.text.filter Text.isDigit =
      numeral.first :: numeral.more.filter Text.isDigit :=
    List.filter_cons_of_pos numeral.isDigit_first
  have hdigits : ∀ c ∈ numeral.text.filter Text.isDigit, Text.isDigit c = true := by
    intro c hc
    exact List.of_mem_filter hc
  have hdecimal := Text.readDecimal?_of_digits (by simp [hfilter]) hdigits
  rw [hfilter] at hdecimal
  rw [Token.readInt?, hfilter, Text.readInt64?_digits numeral.isDigit_first, hdecimal,
    Option.bind_some, Numeral.value, hfilter]

namespace DecimalString

variable (decimal : DecimalString)

theorem trim_text : Text.trim decimal.text = decimal.sign.text ++ decimal.digits := by
  obtain ⟨first, more, hdigits⟩ := List.exists_cons_of_ne_nil decimal.digits_ne_nil
  have hdigit : ∀ c ∈ decimal.digits, Text.isBlank c = false :=
    fun c hc => not_isBlank_of_isDigit (decimal.isDigit_digits c hc)
  rw [text, Text.trim_blank_append decimal.allBlank_before,
    Text.trim_append_blank _ decimal.allBlank_after]
  apply Text.trim_eq_self
  · cases decimal.sign with
    | none =>
        rw [Sign.text, List.nil_append, hdigits]
        exact hdigit first (by simp [hdigits])
    | _ => rfl
  · intro c hc
    rw [List.getLast?_append_of_ne_nil _ decimal.digits_ne_nil] at hc
    exact hdigit c (List.mem_of_getLast? hc)

theorem readInt64?_trim_text :
    Text.readInt64? (Text.trim decimal.text) = Text.toInt64? decimal.value := by
  have hread := Text.readDecimal?_of_digits decimal.digits_ne_nil decimal.isDigit_digits
  obtain ⟨first, more, hdigits⟩ := List.exists_cons_of_ne_nil decimal.digits_ne_nil
  have hfirst : Text.isDigit first = true := decimal.isDigit_digits first (by simp [hdigits])
  rw [trim_text, value]
  cases decimal.sign with
  | none =>
      rw [Sign.text, List.nil_append, hdigits, Text.readInt64?_digits hfirst, ← hdigits, hread]
      rfl
  | plus =>
      rw [Sign.text, List.singleton_append, Text.readInt64?, hread]
      rfl
  | minus =>
      rw [Sign.text, List.singleton_append, Text.readInt64?, hread]
      rfl

end DecimalString

/-! ### The trees of a sum -/

def Summand.term : Summand → Grammar.Term
  | literal numeral => .int (Int64.ofInt numeral.value)
  | converted decimal =>
      .call "int" (.some (.last (.sum (.terms (.str (String.ofList decimal.text)) .none))))

/-- The summands with a plus sign before each. -/
def addends : List Summand → Grammar.Addends
  | [] => .none
  | summand :: more => .plus summand.term (addends more)

def sumTree (first : Summand) (more : List Summand) : Grammar.Comparison :=
  .sum (.terms first.term (addends more))

section Value

open Expression (pass)

variable {scope : Scope}

theorem call_int (value : Value) :
    Expression.call scope "int" [value] = pass (Expression.toInteger value) := by
  rw [Expression.call, if_neg (by decide), if_neg (by decide), if_neg (by decide),
    if_neg (by decide), if_neg (by decide), if_pos rfl]
  rfl

theorem eval_converted (decimal : DecimalString) :
    (Summand.converted decimal).term.eval scope =
      match Text.toInt64? decimal.value with
      | some n => return .int n
      | none => throw (.invalidInteger (String.ofList decimal.text)) := by
  have hcall : (Summand.converted decimal).term.eval scope =
      Expression.call scope "int" [.str (String.ofList decimal.text)] := rfl
  rw [hcall, call_int, Expression.toInteger, String.toList_ofList, decimal.readInt64?_trim_text]
  cases Text.toInt64? decimal.value <;> rfl

theorem eval_summand {summand : Summand} (h : Fits64 summand.value) :
    summand.term.eval scope = return .int (Int64.ofInt summand.value) := by
  cases summand with
  | literal numeral => rfl
  | converted decimal =>
      have hvalue : Text.toInt64? decimal.value = _ := Fits64.toInt64? h
      rw [eval_converted, hvalue]
      rfl

theorem eval_addends_cons {n : Int} {summand : Summand} (hn : Fits64 n)
    (h : Fits64 summand.value) (more : List Summand) :
    (addends (summand :: more)).eval scope (.int (Int64.ofInt n)) =
      match Text.toInt64? (n + summand.value) with
      | some sum => (addends more).eval scope (.int sum)
      | none => throw .additionOverflow := by
  rw [addends, Grammar.Addends.eval, eval_summand h, pure_bind, Expression.add, hn.toInt_ofInt,
    h.toInt_ofInt]
  cases Text.toInt64? (n + summand.value) <;> rfl

theorem eval_addends_append {before : List Summand} (h : Exact before) (after : List Summand) :
    (addends (before ++ after)).eval scope (.int 0) =
      (addends after).eval scope (.int (Int64.ofInt (total before))) := by
  -- The last summand is added to the total of those before it, so the induction is from the end.
  induction before using List.reverseRecOn generalizing after with
  | nil => rfl
  | append_singleton before summand ih =>
      have hterm : Fits64 summand.value := h.terms summand (by simp)
      have hsum : Fits64 (total before + summand.value) := by
        rw [← total_concat]
        exact h.total
      rw [List.append_assoc, List.singleton_append, ih h.before,
        eval_addends_cons h.before.total hterm, hsum.toInt64?, total_concat]

theorem eval_sumTree {first : Summand} {more : List Summand}
    (hliteral : ∀ numeral, .literal numeral ∈ first :: more → Fits64 numeral.value) :
    (sumTree first more).eval scope = (addends (first :: more)).eval scope (.int 0) := by
  have hstart : (sumTree first more).eval scope =
      first.term.eval scope >>= (addends more).eval scope := rfl
  by_cases hfirst : Fits64 first.value
  · have hzero := @eval_addends_cons scope 0 first (by decide) hfirst more
    rw [Int.zero_add, hfirst.toInt64?] at hzero
    rw [hstart, eval_summand hfirst, pure_bind]
    exact hzero.symm
  · cases first with
    | literal numeral => exact absurd (hliteral numeral List.mem_cons_self) hfirst
    | converted decimal =>
        have hvalue : Text.toInt64? decimal.value = none := Text.toInt64?_eq_none hfirst
        rw [hstart, addends, Grammar.Addends.eval, eval_converted, hvalue]
        rfl

variable {first : Summand} {more : List Summand}

theorem eval_of_exact (h : Exact (first :: more)) :
    (sumTree first more).eval scope = return .int (Int64.ofInt (total (first :: more))) := by
  rw [eval_sumTree fun numeral hmem => h.terms _ hmem, ← List.append_nil (first :: more),
    eval_addends_append h, List.append_nil]
  rfl

/-- What is refused behind exact summands is what the value of the sum fails with. -/
theorem eval_of_refused {fault : Fault}
    (hliteral : ∀ numeral, .literal numeral ∈ first :: more → Fits64 numeral.value)
    (h : Refused (first :: more) fault) : (sumTree first more).eval scope = throw fault := by
  rw [eval_sumTree hliteral]
  cases h with
  | literal hmem hlarge => exact absurd (hliteral _ hmem) hlarge
  | @string before after decimal _ hsplit hbefore hlarge =>
      have hvalue : Text.toInt64? decimal.value = none := Text.toInt64?_eq_none hlarge
      rw [hsplit, eval_addends_append hbefore, addends, Grammar.Addends.eval, eval_converted,
        hvalue]
      rfl
  | @sum before after summand _ hsplit hbefore hsummand hlarge =>
      rw [total_concat] at hlarge
      rw [hsplit, eval_addends_append hbefore, eval_addends_cons hbefore.total hsummand,
        Text.toInt64?_eq_none hlarge]

end Value

/-! ### The tokens of a sum -/

section Tokens

open Token (tokenize continuesInt continuesName)

theorem tokenize_plus (more : List Char) :
    tokenize ('+' :: more) = (tokenize more).map (.plus :: ·) :=
  Token.tokenize_of_seen (by decide) (by decide) rfl

theorem Numeral.continuesInt_more (numeral : Numeral) :
    ∀ c ∈ numeral.more, continuesInt c = true := by
  intro c hc
  simpa [continuesInt] using numeral.grouped c hc

theorem Numeral.tokenize_text (numeral : Numeral) {n : Int64}
    (hvalue : Text.toInt64? numeral.value = some n) {rest : List Char}
    (hends : ∀ c ∈ rest.head?, continuesInt c = false) :
    tokenize (numeral.text ++ rest) = (tokenize rest).map (.int n :: ·) := by
  rw [← numeral.readInt?_text, text] at hvalue
  have hread := Token.tokenize_literal numeral.isDigit_first numeral.continuesInt_more hends
  rwa [hvalue] at hread

theorem head_spaces {p : Char → Bool} (hspace : p ' ' = false) (htab : p '\t' = false) {c : Char}
    (hc : p c = false) {gap : List Char} (hgap : Spaces gap) (rest : List Char) :
    ∀ d ∈ (gap ++ c :: rest).head?, p d = false := by
  intro d hd
  cases gap with
  | nil =>
      cases hd
      exact hc
  | cons space gap =>
      rw [List.cons_append, List.head?_cons, Option.mem_some_iff] at hd
      rcases hgap space List.mem_cons_self with rfl | rfl
      · exact hd ▸ hspace
      · exact hd ▸ htab

theorem tokenize_summand {summand : Summand} {text rest : List Char} (h : summand.Writes text)
    (hliteral : ∀ numeral, summand = .literal numeral → Fits64 numeral.value)
    (hends : ∀ c ∈ rest.head?, continuesInt c = false) :
    tokenize (text ++ rest) = (tokenize rest).map (summand.term.tokens ++ ·) := by
  cases h with
  | literal numeral => exact numeral.tokenize_text (hliteral numeral rfl).toInt64? hends
  | @converted decimal quote body gap inner outer hquote hbody hgap hinner houter =>
      have hname : Token.IsName "int" := ⟨'i', "nt".toList, rfl, by decide, by decide⟩
      simp only [List.append_assoc, List.cons_append, List.nil_append]
      rw [Token.tokenize_name hname (head_spaces (by decide) (by decide) (by decide) hgap _),
        Token.tokenize_gap hgap, Token.tokenize_leftParen, Token.tokenize_gap hinner,
        Token.tokenize_string hquote hbody, Token.tokenize_gap houter, Token.tokenize_rightParen]
      cases tokenize rest <;> rfl

theorem tokenize_large_summand {numeral : Numeral} {text rest : List Char}
    (h : (Summand.literal numeral).Writes text) (hlarge : ¬ Fits64 numeral.value)
    (hends : ∀ c ∈ rest.head?, continuesInt c = false) :
    tokenize (text ++ rest) = .error .literalTooLarge := by
  cases h with
  | literal =>
      have hvalue : Token.readInt? (numeral.first :: numeral.more) = none := by
        rw [← Numeral.text, numeral.readInt?_text, Text.toInt64?_eq_none hlarge]
      have hread := Token.tokenize_literal numeral.isDigit_first numeral.continuesInt_more hends
      rwa [hvalue] at hread

theorem tokenize_large {first : Summand} {more : List Summand} {text : List Char}
    (h : WritesSum first more text) {numeral : Numeral} (hmem : .literal numeral ∈ first :: more)
    (hlarge : ¬ Fits64 numeral.value) : tokenize text = .error .literalTooLarge := by
  induction h with
  | @last summand text h =>
      obtain rfl := List.mem_singleton.mp hmem
      rw [← List.append_nil text]
      exact tokenize_large_summand h hlarge (by rintro _ ⟨⟩)
  | @plus summand next more text before after rest h hbefore hafter hmore ih =>
      have hends := @head_spaces continuesInt (by decide) (by decide) '+' (by decide) before
        hbefore (after ++ rest)
      by_cases hliteral : ∀ other, summand = .literal other → Fits64 other.value
      · have hlater : .literal numeral ∈ next :: more := by
          rcases List.mem_cons.mp hmem with hfirst | hlater
          · exact absurd (hliteral numeral hfirst.symm) hlarge
          · exact hlater
        rw [tokenize_summand h hliteral hends, Token.tokenize_gap hbefore, tokenize_plus,
          Token.tokenize_gap hafter, ih hlater]
        rfl
      · push Not at hliteral
        obtain ⟨other, rfl, hother⟩ := hliteral
        exact tokenize_large_summand h hother hends

theorem tokenize_sum {first : Summand} {more : List Summand} {text : List Char}
    (h : WritesSum first more text)
    (hliteral : ∀ numeral, .literal numeral ∈ first :: more → Fits64 numeral.value) :
    tokenize text = .ok (sumTree first more).tokens := by
  induction h with
  | @last summand text h =>
      have hread := @tokenize_summand summand text [] h
        (fun numeral heq => hliteral numeral (by simp [heq])) (by rintro _ ⟨⟩)
      rw [List.append_nil, Token.tokenize_nil] at hread
      exact hread
  | @plus summand next more text before after rest h hbefore hafter hmore ih =>
      have hrest := ih fun numeral hmem => hliteral numeral (List.mem_cons_of_mem _ hmem)
      rw [tokenize_summand h (fun numeral heq => hliteral numeral (by simp [heq]))
        (head_spaces (by decide) (by decide) (by decide) hbefore _),
        Token.tokenize_gap hbefore, tokenize_plus, Token.tokenize_gap hafter, hrest]
      rfl

end Tokens

/-! ### Sums as statements -/

section Statements

variable {first : Summand} {more : List Summand} {text : List Char}

/-- The text begins with a digit, or as the name of the conversion does. -/
def Begins (text : List Char) : Prop :=
  ∃ c rest, text = c :: rest ∧ (Text.isDigit c = true ∨ c = 'i' ∧ rest.head? = some 'n')

theorem Begins.append {text : List Char} (h : Begins text) (rest : List Char) :
    Begins (text ++ rest) := by
  obtain ⟨c, more, rfl, hc⟩ := h
  refine ⟨c, more ++ rest, rfl, hc.imp_right fun hint => ⟨hint.1, ?_⟩⟩
  rw [List.head?_append, hint.2, Option.some_or]

theorem WritesSum.begins (h : WritesSum first more text) : Begins text := by
  have hsummand : ∀ {summand text}, Summand.Writes summand text → Begins text := by
    intro summand text h
    cases h with
    | literal numeral => exact ⟨_, _, rfl, .inl numeral.isDigit_first⟩
    | converted => exact ⟨_, _, rfl, .inr ⟨rfl, rfl⟩⟩
  cases h with
  | last h => exact hsummand h
  | plus h => exact (hsummand h).append _

theorem Begins.expression {text : List Char} (h : Begins text) :
    text ≠ [] ∧ text.head? ≠ some '#' ∧ text ≠ "pass".toList ∧ isImport text = false := by
  obtain ⟨c, rest, rfl, hdigit | ⟨rfl, hrest⟩⟩ := h
  · obtain ⟨hcomment, hpass, himport, hfrom⟩ : c ≠ '#' ∧ c ≠ 'p' ∧ 'i' ≠ c ∧ 'f' ≠ c := by
      refine ⟨?_, ?_, ?_, ?_⟩ <;> (rintro rfl; revert hdigit; decide)
    have hhead : ∀ {head : List Char} {d : Char}, head.head? = some d → d ≠ c →
        (Text.after? head (c :: rest)).isSome = false := by
      intro head d hd hother
      obtain ⟨more, rfl⟩ := List.head?_eq_some_iff.mp hd
      rw [Text.after?, List.isPrefixOf?, if_neg (by simpa using hother)]
      rfl
    refine ⟨by simp, by simpa using hcomment, ?_, ?_⟩
    · intro hword
      exact hpass (List.cons.inj hword).1
    · rw [isImport, hhead rfl himport, hhead rfl hfrom]
      rfl
  · obtain ⟨rest, rfl⟩ := List.head?_eq_some_iff.mp hrest
    refine ⟨by simp, by simp, by rintro ⟨⟩, rfl⟩

theorem WritesSum.getLast?_ne (h : WritesSum first more text) : text.getLast? ≠ some ':' := by
  have hsummand : ∀ {summand text}, Summand.Writes summand text → text.getLast? ≠ some ':' := by
    intro summand text h hlast
    cases h with
    | literal numeral =>
        rcases List.mem_cons.mp (List.mem_of_getLast? hlast) with hfirst | hmore
        · have hdigit := numeral.isDigit_first
          rw [← hfirst] at hdigit
          revert hdigit
          decide
        · have hcolon := numeral.grouped _ hmore
          revert hcolon
          decide
    | converted => simp [List.getLast?_append, List.getLast?_cons] at hlast
  induction h with
  | last h => exact hsummand h
  | plus h _ _ hmore ih =>
      obtain ⟨c, rest, rfl, -⟩ := hmore.begins
      rwa [← List.cons_append, ← List.append_assoc, ← List.append_assoc,
        List.getLast?_append_of_ne_nil _ (List.cons_ne_nil c rest)]

def WritesSum.statement (h : WritesSum first more text) : Statement where
  text := text
  full := h.begins.expression.1
  noComment := h.begins.expression.2.1
  noHeader := h.getLast?_ne

theorem execute_sum (h : WritesSum first more text)
    (hliteral : ∀ numeral, .literal numeral ∈ first :: more → Fits64 numeral.value)
    (scope : Scope) : (execute text).run scope =
      ((sumTree first more).eval scope).run.bind fun result =>
        .done (result.map shown, scope) := by
  obtain ⟨-, -, hpass, himport⟩ := h.begins.expression
  have hraise : (sumTree first more).tokens.head? ≠ some (.name "raise") := by
    cases first with
    | literal numeral => rintro ⟨⟩
    | converted decimal =>
        intro hname
        injection hname with hname
        injection hname with hname
        revert hname
        decide
  have hassign : (sumTree first more).tokens[1]? ≠ some .assign := by
    cases first with
    | literal numeral => cases more <;> rintro ⟨⟩
    | converted decimal => rintro ⟨⟩
  rw [execute_expression hpass himport (tokenize_sum h hliteral) hraise hassign,
    Expression.evaluate_tokens]

theorem execute_large (h : WritesSum first more text) {numeral : Numeral}
    (hmem : .literal numeral ∈ first :: more) (hlarge : ¬ Fits64 numeral.value) (scope : Scope) :
    (execute text).run scope = .done (.error .literalTooLarge, scope) := by
  obtain ⟨-, -, hpass, himport⟩ := h.begins.expression
  rw [execute, if_neg hpass, if_neg (Bool.eq_false_iff.mp himport), tokenize_large h hmem hlarge]
  rfl

theorem execute_exact (h : WritesSum first more text) (hexact : Exact (first :: more))
    (scope : Scope) : (execute text).run scope =
      .done (.ok (some (.int (Int64.ofInt (total (first :: more))))), scope) := by
  rw [execute_sum h (fun numeral hmem => hexact.terms _ hmem), eval_of_exact hexact]
  rfl

theorem execute_refused (h : WritesSum first more text) {fault : Fault}
    (hrefused : Refused (first :: more) fault) (scope : Scope) :
    (execute text).run scope = .done (.error fault, scope) := by
  by_cases hliteral : ∀ numeral, .literal numeral ∈ first :: more → Fits64 numeral.value
  · rw [execute_sum h hliteral, eval_of_refused hliteral hrefused]
    rfl
  · cases hrefused with
    | literal hmem hlarge => exact execute_large h hmem hlarge scope
    | string hliterals => exact absurd hliterals hliteral
    | sum hliterals => exact absurd hliterals hliteral

/-- The kinds of what is refused: an overflow for literals and partial sums, and a value error for
strings. -/
theorem Refused.kind {summands : List Summand} {fault : Fault} (h : Refused summands fault) :
    (fault.kind = "OverflowError" ∧
      ((∃ numeral, .literal numeral ∈ summands ∧ ¬ Fits64 numeral.value) ∨
        ∃ begun, begun <+: summands ∧ ¬ Fits64 (total begun))) ∨
    (fault.kind = "ValueError" ∧
      ∃ decimal, .converted decimal ∈ summands ∧ ¬ Fits64 decimal.value) := by
  cases h with
  | literal hmem hlarge => exact .inl ⟨rfl, .inl ⟨_, hmem, hlarge⟩⟩
  | string _ hsplit _ hlarge => exact .inr ⟨rfl, _, by simp [hsplit], hlarge⟩
  | @sum before after summand _ hsplit _ _ hlarge =>
      exact .inl ⟨rfl, .inr ⟨before ++ [summand], ⟨after, by simp [hsplit]⟩, hlarge⟩⟩

/-! ### Integers as strings -/

theorem exists_decimalString (n : Int) :
    ∃ decimal : DecimalString, decimal.text = Text.signedDecimal n ∧ decimal.value = n := by
  have hdigits (k : Nat) : (Nat.ofDigitChars 10 (Text.decimal k) 0 : Int) = k :=
    congrArg Int.ofNat Nat.ofDigitChars_ten_toDigits
  cases n with
  | ofNat k =>
      refine ⟨⟨[], .none, Text.decimal k, [], rfl, Text.decimal_ne_nil k,
        fun c hc => Text.isDigit_of_mem_decimal hc, rfl⟩, ?_, hdigits k⟩
      simp [DecimalString.text, Sign.text, Text.signedDecimal]
  | negSucc k =>
      refine ⟨⟨[], .minus, Text.decimal (k + 1), [], rfl, Text.decimal_ne_nil (k + 1),
        fun c hc => Text.isDigit_of_mem_decimal hc, rfl⟩, ?_, congrArg Neg.neg (hdigits (k + 1))⟩
      simp [DecimalString.text, Sign.text, Text.signedDecimal]

def intOfStr (name : String) : Grammar.Comparison :=
  let text : Grammar.Term := .call "str" (.some (.last (.sum (.terms (.name name) .none))))
  .sum (.terms (.call "int" (.some (.last (.sum (.terms text .none))))) .none)

theorem tokenize_intOfStr {name : String} (h : Token.IsName name) :
    Token.tokenize ("int(str(" ++ name ++ "))").toList = .ok (intOfStr name).tokens := by
  have hint : Token.IsName "int" := ⟨'i', "nt".toList, rfl, by decide, by decide⟩
  have hstr : Token.IsName "str" := ⟨'s', "tr".toList, rfl, by decide, by decide⟩
  have htext : ("int(str(" ++ name ++ "))").toList =
      "int".toList ++ '(' :: ("str".toList ++ '(' :: (name.toList ++ [')', ')'])) := by
    simp
  have hleft : ∀ {rest : List Char}, ∀ d ∈ ('(' :: rest).head?, Token.continuesName d = false := by
    rintro _ _ ⟨⟩
    decide
  have hright : ∀ d ∈ [')', ')'].head?, Token.continuesName d = false := by
    rintro _ ⟨⟩
    decide
  rw [htext, Token.tokenize_name hint hleft, Token.tokenize_leftParen,
    Token.tokenize_name hstr hleft, Token.tokenize_leftParen, Token.tokenize_name h hright,
    Token.tokenize_rightParen, Token.tokenize_rightParen, Token.tokenize_nil]
  rfl

theorem eval_intOfStr {name : String} {scope : Scope} {n : Int64}
    (hvalue : Expression.lookup scope name = .ok (.int n)) :
    (intOfStr name).eval scope = return .int n := by
  obtain ⟨decimal, htext, hn⟩ := exists_decimalString n.toInt
  have hcalls : (intOfStr name).eval scope = (do
      let value ← Expression.pass (Expression.lookup scope name)
      Expression.pass (Expression.toInteger (.str value.text))) := by
    simp only [intOfStr, Grammar.Comparison.eval, Grammar.Sum.eval, Grammar.Addends.eval,
      Grammar.Term.eval, Grammar.CallArguments.eval, Grammar.ArgumentList.eval, bind_pure,
      bind_assoc, pure_bind]
    rfl
  rw [hcalls, hvalue]
  show Expression.pass (Expression.toInteger (.str (Value.int n).text)) = _
  rw [Value.text, Expression.toInteger, String.toList_ofList, ← htext,
    decimal.readInt64?_trim_text, hn, Text.toInt64?_toInt]
  rfl

theorem ofText_intOfStr {name : String} (h : Token.IsName name) {scope : Scope} {n : Int64}
    (hvalue : Expression.lookup scope name = .ok (.int n)) :
    Expression.ofText scope ("int(str(" ++ name ++ "))").toList = return .int n := by
  have htree := @Expression.evaluate_tokens scope (intOfStr name)
  rw [Expression.ofText, tokenize_intOfStr h]
  show Expression.evaluate scope (intOfStr name).tokens = _
  rw [htree, eval_intOfStr hvalue]

/-! ### Exact sums -/

/-- The integers of a sum are added exactly, or the sum is refused. As long as every literal, every
string and every partial sum fits 64 bits, the total is shown; otherwise the sum fails at the first
thing that does not fit, with an overflow for a literal or a partial sum and a value error for a
string. An integer of 64 bits is its own string read back. -/
theorem integers_exact_or_refused {available : List String} {code : String}
    (htext : WritesSum first more text) (hcode : Renders [(text, false)] (Text.lines code.toList))
    (scope : Scope) :
    (Exact (first :: more) → (interpreter available).run code scope =
      .done (.ok (some (String.ofList (Text.signedDecimal (total (first :: more))))), scope)) ∧
    (¬ Exact (first :: more) → ∃ fault, Refused (first :: more) fault) ∧
    (∀ fault, Refused (first :: more) fault →
      (interpreter available).run code scope = .done (.raised fault.toScriptError, scope) ∧
      ((fault.kind = "OverflowError" ∧
        ((∃ numeral, .literal numeral ∈ first :: more ∧ ¬ Fits64 numeral.value) ∨
          ∃ begun, begun <+: first :: more ∧ ¬ Fits64 (total begun))) ∨
      (fault.kind = "ValueError" ∧
        ∃ decimal, .converted decimal ∈ first :: more ∧ ¬ Fits64 decimal.value))) ∧
    ∀ name n, Token.IsName name → Expression.lookup scope name = .ok (.int n) →
      Expression.ofText scope ("int(str(" ++ name ++ "))").toList = return .int n := by
  have hrun := @run_of_statement available code htext.statement hcode scope
  refine ⟨?_, ?_, ?_, ?_⟩
  · intro hexact
    have hshown : (Value.int (Int64.ofInt (total (first :: more)))).display =
        String.ofList (Text.signedDecimal (total (first :: more))) := by
      rw [Value.display, Value.text, hexact.total.toInt_ofInt]
      · rintro _ ⟨⟩
      · rintro _ _ ⟨⟩
    rw [hrun, Statement.run, WritesSum.statement, execute_exact htext hexact, ← hshown]
    rfl
  · intro hnot
    exact (exact_or_refused (first :: more)).resolve_left hnot
  · intro fault hrefused
    refine ⟨?_, hrefused.kind⟩
    rw [hrun, Statement.run, WritesSum.statement, execute_refused htext hrefused]
    rfl
  · intro name n hname hvalue
    exact ofText_intOfStr hname hvalue

def largest : Numeral :=
  have hdigits : "223372036854775807".toList.all Text.isDigit = true := by decide
  ⟨'9', "223372036854775807".toList, by decide,
    fun c hc => .inl (List.all_eq_true.mp hdigits c hc)⟩

def one : Numeral :=
  ⟨'1', [], by decide, List.forall_mem_nil _⟩

def minusOne : DecimalString :=
  ⟨[' '], .minus, ['1'], [], rfl, by simp, List.all_eq_true.mp (by decide), rfl⟩

/-- In one order the three have a sum, and in another they do not. -/
theorem integers_exact_or_refused_by_order :
    (interpreter []).run "9223372036854775807 + int(' -1') + 1" ⟨[], [], []⟩ =
      .done (.ok (some "9223372036854775807"), ⟨[], [], []⟩) ∧
    (interpreter []).run "9223372036854775807 + 1 + int(' -1')" ⟨[], [], []⟩ =
      .done (.raised ⟨"OverflowError", "integer addition overflowed"⟩, ⟨[], [], []⟩) := by
  have hnone : Spaces [] := by simp [Spaces]
  have hspace : Spaces [' '] := by simp [Spaces]
  have hquotes : Token.Quotes '\'' minusOne.text minusOne.text :=
    Token.quotes_escape minusOne.text
  have hminusOne : (Summand.converted minusOne).Writes "int(' -1')".toList :=
    .converted (.inl rfl) hquotes hnone hnone hnone
  have hlargest : Exact [.literal largest] :=
    @Exact.concat [] (.literal largest) exact_nil (by decide +kernel) (by decide +kernel)
  constructor
  · have hboth : Exact [.literal largest, .converted minusOne] :=
      hlargest.concat (by decide +kernel) (by decide +kernel)
    have hall : Exact [.literal largest, .converted minusOne, .literal one] :=
      hboth.concat (by decide +kernel) (by decide +kernel)
    exact (integers_exact_or_refused (.plus (.literal largest) hspace hspace
      (.plus hminusOne hspace hspace (.last (.literal one)))) (.line (by decide +kernel)
      (by decide +kernel) .nil) ⟨[], [], []⟩).1 hall
  · have hfits : ∀ numeral, Summand.literal numeral ∈
        [.literal largest, .literal one, .converted minusOne] → Fits64 numeral.value := by
      intro numeral hmem
      simp only [List.mem_cons, Summand.literal.injEq, reduceCtorEq, List.not_mem_nil,
        or_false] at hmem
      rcases hmem with rfl | rfl <;> decide +kernel
    have hrefused : Refused [.literal largest, .literal one, .converted minusOne]
        .additionOverflow :=
      @Refused.sum _ [.literal largest] _ _ hfits rfl hlargest (by decide +kernel)
        (by decide +kernel)
    exact ((integers_exact_or_refused (.plus (.literal largest) hspace hspace
      (.plus (.literal one) hspace hspace (.last hminusOne))) (.line (by decide +kernel)
      (by decide +kernel) .nil) ⟨[], [], []⟩).2.2.1 _ hrefused).1

end Statements

end ScriptConsole.Script
