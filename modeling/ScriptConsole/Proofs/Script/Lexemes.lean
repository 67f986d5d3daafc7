import ScriptConsole.Proofs.Script.Remarks
import ScriptConsole.Proofs.Text.Decimal

/-!
How single tokens are written. A name, a numeral or a quoted string in front of a text is read as
its token, and the text behind it is read on its own, unless its first character would continue the
token.
-/

namespace ScriptConsole.Script.Token

/-- What stands between quotes of this kind for a text: a character as it is, unless it is the quote
or a backslash, or a backslash and a character that then stands for it. -/
inductive Quotes (quote : Char) : List Char → List Char → Prop where
  | nil : Quotes quote [] []
  | plain {c : Char} {text body : List Char} (hquote : c ≠ quote) (hslash : c ≠ '\\')
      (h : Quotes quote text body) : Quotes quote (c :: text) (c :: body)
  | escaped {c : Char} {text body : List Char} (h : Quotes quote text body) :
      Quotes quote (unescape c :: text) ('\\' :: c :: body)

theorem Quotes.readString? {quote : Char} {text body : List Char} (h : Quotes quote text body)
    (hquote : quote ≠ '\\') (rest : List Char) :
    readString? quote (body ++ quote :: rest) = some (text, rest) := by
  induction h with
  | nil => rw [List.nil_append, readString?_cons hquote, if_pos rfl]
  | plain hother hslash h ih =>
      rw [List.cons_append, readString?_cons hslash, if_neg hother, ih]
      rfl
  | escaped h ih =>
      rw [List.cons_append, List.cons_append, Token.readString?, ih]
      rfl

/-- How a character of a string stands between quotes of this kind. -/
def escapeFor (quote c : Char) : List Char :=
  if c = '\\' ∨ c = quote then ['\\', c] else [c]

theorem quotes_escapeFor {quote : Char} (hquote : quote = '\'' ∨ quote = '"') (text : List Char) :
    Quotes quote text (text.flatMap (escapeFor quote)) := by
  induction text with
  | nil => exact .nil
  | cons c text ih =>
      rw [List.flatMap_cons, escapeFor]
      split
      · next hescaped =>
        have hsame : unescape c = c := by
          rcases hescaped with rfl | rfl
          · rfl
          · rcases hquote with rfl | rfl <;> rfl
        have hquotes := @Quotes.escaped quote c _ _ ih
        rwa [hsame] at hquotes
      · next hplain =>
        obtain ⟨hslash, hother⟩ := not_or.mp hplain
        exact .plain hother hslash ih

theorem escape_eq_flatMap (text : List Char) :
    Value.escape text = text.flatMap (escapeFor '\'') := by
  induction text with
  | nil => rfl
  | cons c text ih =>
      rw [Value.escape, List.flatMap_cons, escapeFor, ih]
      split <;> rfl

theorem quotes_escape (text : List Char) : Quotes '\'' text (Value.escape text) := by
  rw [escape_eq_flatMap]
  exact quotes_escapeFor (.inl rfl) text

/-- The text is a name, perhaps with dots in it. -/
def IsName (text : String) : Prop :=
  ∃ c rest, text.toList = c :: rest ∧ startsName c = true ∧ rest.all continuesName = true

/-- The characters that are a gap or a comment or begin a token that is no word. -/
def marks : List Char :=
  [' ', '\t', '#', '=', '!', '(', ')', ',', '+', '\'', '"']

theorem notMem_marks {p : Char → Bool} (hmarks : marks.any p = false) {c : Char}
    (h : p c = true) : c ∉ marks :=
  fun hc => List.any_eq_false.mp hmarks c hc h

theorem not_isDigit_of_startsName {c : Char} (h : startsName c = true) : Text.isDigit c = false := by
  rw [← Bool.not_eq_true]
  intro hdigit
  have hrange := Text.toNat_of_isDigit hdigit
  obtain ⟨k, hk⟩ := Nat.exists_eq_add_of_le hrange.1
  have hdigits : ∀ k < 10, startsName (Char.ofNat (48 + k)) = false := by decide +kernel
  have hnone := hdigits k (by omega)
  rw [← hk, Char.ofNat_toNat, h] at hnone
  cases hnone

variable {more : List Char}

theorem seen_readFrom_word {c : Char} (hc : c ∉ marks) (rest : List Char) :
    seen (readFrom c rest) =
      if Text.isDigit c then
        match readInt? (c :: rest.takeWhile continuesInt) with
        | none => .error .literalTooLarge
        | some n => .ok (.int n, rest.dropWhile continuesInt)
      else if startsName c then
        .ok (.name (String.ofList (c :: rest.takeWhile continuesName)),
          rest.dropWhile continuesName)
      else .error (.invalidCharacter c) := by
  simp only [marks, List.mem_cons, List.not_mem_nil, or_false, not_or] at hc
  obtain ⟨-, -, -, hequal, hbang, hleft, hright, hcomma, hplus, hsingle, hdouble⟩ := hc
  rw [readFrom, if_neg hequal, if_neg hbang, if_neg hleft, if_neg hright, if_neg hcomma,
    if_neg hplus, if_neg (not_or.mpr ⟨hsingle, hdouble⟩)]
  by_cases hdigit : Text.isDigit c = true
  · rw [if_pos hdigit, if_pos hdigit]
    cases readInt? (c :: rest.takeWhile continuesInt) <;> rfl
  · rw [if_neg hdigit, if_neg hdigit]
    split <;> rfl

theorem tokenize_of_seen {c : Char} {rest : List Char} {token : Token}
    (hgap : ¬ (c = ' ' ∨ c = '\t')) (hcomment : c ≠ '#')
    (hseen : seen (readFrom c rest) = .ok (token, more)) :
    tokenize (c :: rest) = (tokenize more).map (token :: ·) := by
  rw [tokenize_cons hgap hcomment, hseen]
  rfl

theorem tokenize_word {c : Char} (hc : c ∉ marks) {rest : List Char} {token : Token}
    (hseen : seen (readFrom c rest) = .ok (token, more)) :
    tokenize (c :: rest) = (tokenize more).map (token :: ·) := by
  apply tokenize_of_seen _ _ hseen
  · rintro (rfl | rfl) <;> exact hc (by decide)
  · rintro rfl
    exact hc (by decide)

/-! ### A token and what stands behind it -/

theorem tokenize_name {name : String} (h : IsName name)
    (hends : ∀ d ∈ more.head?, continuesName d = false) :
    tokenize (name.toList ++ more) = (tokenize more).map (.name name :: ·) := by
  obtain ⟨c, rest, hname, hstarts, hrest⟩ := h
  have hc : c ∉ marks := notMem_marks (by decide) hstarts
  obtain ⟨htake, hdrop⟩ := Text.takeWhile_run (List.all_eq_true.mp hrest) hends
  rw [hname, List.cons_append]
  apply tokenize_word hc
  rw [seen_readFrom_word hc, if_neg (Bool.not_eq_true _ ▸ not_isDigit_of_startsName hstarts),
    if_pos hstarts, htake, hdrop, ← hname, String.ofList_toList]

/-- A literal of digits and underscores is an integer, or it is too large and ends the reading. -/
theorem tokenize_literal {c : Char} {digits : List Char} (hdigit : Text.isDigit c = true)
    (hdigits : ∀ d ∈ digits, continuesInt d = true)
    (hends : ∀ d ∈ more.head?, continuesInt d = false) :
    tokenize (c :: (digits ++ more)) =
      match readInt? (c :: digits) with
      | none => .error .literalTooLarge
      | some n => (tokenize more).map (.int n :: ·) := by
  have hc : c ∉ marks := notMem_marks (by decide) hdigit
  obtain ⟨htake, hdrop⟩ := Text.takeWhile_run hdigits hends
  cases hvalue : readInt? (c :: digits) with
  | none =>
      rw [tokenize_cons, seen_readFrom_word hc, if_pos hdigit, htake, hvalue]
      · rfl
      · rintro (rfl | rfl) <;> exact hc (by decide)
      · rintro rfl
        exact hc (by decide)
  | some n =>
      apply tokenize_word hc
      rw [seen_readFrom_word hc, if_pos hdigit, htake, hdrop, hvalue]

theorem tokenize_numeral {n : Int64} {k : Nat} (hn : n.toInt = k)
    (hends : ∀ d ∈ more.head?, continuesInt d = false) :
    tokenize (Text.decimal k ++ more) = (tokenize more).map (.int n :: ·) := by
  obtain ⟨c, digits, hdecimal, hdigit, hdigits⟩ := Text.exists_decimal_cons k
  have hcontinues : ∀ d ∈ digits, continuesInt d = true := by
    intro d hd
    rw [continuesInt, hdigits d hd, Bool.true_or]
  have hvalue : readInt? (c :: digits) = some n := by
    rw [readInt?, List.filter_eq_self.mpr (List.forall_mem_cons.mpr ⟨hdigit, hdigits⟩), ← hdecimal,
      Text.readInt64?_decimal hn]
  rw [hdecimal, List.cons_append, tokenize_literal hdigit hcontinues hends, hvalue]

theorem tokenize_string {quote : Char} (hquote : quote = '\'' ∨ quote = '"')
    {text body : List Char} (h : Quotes quote text body) (more : List Char) :
    tokenize (quote :: (body ++ quote :: more)) =
      (tokenize more).map (.str (String.ofList text) :: ·) := by
  have hread : readString? quote (body ++ quote :: more) = some (text, more) :=
    h.readString? (by rcases hquote with rfl | rfl <;> decide) more
  have hseen : seen (readFrom quote (body ++ quote :: more)) =
      .ok (.str (String.ofList text), more) := by
    have hmark : quote ≠ '=' ∧ quote ≠ '!' ∧ quote ≠ '(' ∧ quote ≠ ')' ∧ quote ≠ ',' ∧
        quote ≠ '+' := by
      rcases hquote with rfl | rfl <;> decide
    obtain ⟨hequal, hbang, hleft, hright, hcomma, hplus⟩ := hmark
    rw [readFrom, if_neg hequal, if_neg hbang, if_neg hleft, if_neg hright, if_neg hcomma,
      if_neg hplus, if_pos hquote]
    split
    · next hnone => cases hnone.symm.trans hread
    · next found after hsome =>
      cases hsome.symm.trans hread
      rfl
  apply tokenize_of_seen _ _ hseen
  · rcases hquote with rfl | rfl <;> decide
  · rcases hquote with rfl | rfl <;> decide

theorem tokenize_quote (text : String) (more : List Char) :
    tokenize ((Value.quote text).toList ++ more) = (tokenize more).map (.str text :: ·) := by
  have hread := tokenize_string (.inl rfl) (quotes_escape text.toList) more
  rw [String.ofList_toList] at hread
  rwa [Value.quote, String.toList_ofList, List.cons_append, List.append_assoc,
    List.singleton_append]

theorem tokenize_leftParen (more : List Char) :
    tokenize ('(' :: more) = (tokenize more).map (.leftParen :: ·) :=
  tokenize_of_seen (by decide) (by decide) rfl

theorem tokenize_rightParen (more : List Char) :
    tokenize (')' :: more) = (tokenize more).map (.rightParen :: ·) :=
  tokenize_of_seen (by decide) (by decide) rfl

end ScriptConsole.Script.Token
