import ScriptConsole.Proofs.Script.Sums

/-!
How a line is written token by token. Whichever quotes, underscores and gaps are chosen, the line is
read as the tokens that it was written for, and a comment at its end changes nothing.
-/

namespace ScriptConsole.Script.Token

/-- The one text of a token that is neither a name nor a value. -/
def sign? : Token → Option (List Char)
  | leftParen => some ['(']
  | rightParen => some [')']
  | comma => some [',']
  | plus => some ['+']
  | assign => some ['=']
  | equal => some ['=', '=']
  | notEqual => some ['!', '=']
  | _ => none

/-- The texts that a token is written as. -/
inductive Renders : Token → List Char → Prop where
  | name {text : String} (h : IsName text) : Renders (.name text) text.toList
  | int {n : Int64} {numeral : Numeral} (h : numeral.value = n.toInt) :
      Renders (.int n) numeral.text
  | str {quote : Char} (hquote : quote = '\'' ∨ quote = '"') (text : String) :
      Renders (.str text) (quote :: (text.toList.flatMap (escapeFor quote) ++ [quote]))
  | sign {token : Token} {text : List Char} (h : token.sign? = some text) : Renders token text

/-- The texts that tokens are written as, with a gap between each and the next. -/
inductive RendersAll : List Token → List Char → Prop where
  | nil : RendersAll [] []
  | last {token : Token} {text : List Char} (h : Renders token text) : RendersAll [token] text
  | next {token next : Token} {tokens : List Token} {text gap more : List Char}
      (h : Renders token text) (hgap : Spaces gap) (hfull : gap ≠ [])
      (hmore : RendersAll (next :: tokens) more) :
      RendersAll (token :: next :: tokens) (text ++ (gap ++ more))

/-! ### A token in front of a gap -/

variable {token : Token} {text rest : List Char}

theorem seen_readSign_alone {second : Char} (hends : ∀ c ∈ rest.head?, c ≠ second)
    (both alone : Token) : seen (readSign second both (.ok alone) rest) = .ok (alone, rest) := by
  cases rest with
  | nil => rfl
  | cons c rest =>
      rw [readSign, if_neg (hends c rfl)]
      rfl

theorem tokenize_sign (h : token.sign? = some text) (hends : ∀ c ∈ rest.head?, c ≠ '=') :
    tokenize (text ++ rest) = (tokenize rest).map (token :: ·) := by
  cases token with
  | name | int | str => cases h
  | assign =>
      cases h
      apply tokenize_of_seen (by decide) (by decide)
      rw [readFrom, if_pos rfl]
      exact seen_readSign_alone hends equal assign
  | leftParen | rightParen | comma | plus | equal | notEqual =>
      cases h
      exact tokenize_of_seen (by decide) (by decide) rfl

theorem Renders.tokenize (h : Renders token text)
    (hends : ∀ c ∈ rest.head?, c = ' ' ∨ c = '\t') :
    tokenize (text ++ rest) = (tokenize rest).map (token :: ·) := by
  cases h with
  | name h => exact tokenize_name h (head_gap hends (by decide) (by decide))
  | @int n numeral h =>
      apply numeral.tokenize_text
      · rw [h, Text.toInt64?_toInt]
      · exact head_gap hends (by decide) (by decide)
  | str hquote text =>
      have hread := tokenize_string hquote (quotes_escapeFor hquote text.toList) rest
      rw [String.ofList_toList] at hread
      rwa [List.cons_append, List.append_assoc, List.singleton_append]
  | sign h =>
      apply tokenize_sign h
      rintro c hc rfl
      exact absurd (hends '=' hc) (by decide)

theorem RendersAll.tokenize {tokens : List Token} (h : RendersAll tokens text) {tail : List Char}
    (htail : Trails tail) : tokenize (text ++ tail) = .ok tokens := by
  induction h with
  | nil => exact htail.silent
  | last h =>
      rw [h.tokenize htail.gap, htail.silent]
      rfl
  | @next token next tokens text gap more h hgap hfull hmore ih =>
      have hends : ∀ c ∈ (gap ++ (more ++ tail)).head?, c = ' ' ∨ c = '\t' := by
        intro c hc
        rw [List.head?_append_of_ne_nil _ hfull] at hc
        exact hgap c (List.mem_of_head? hc)
      rw [List.append_assoc, List.append_assoc, h.tokenize hends, tokenize_gap hgap, ih]
      rfl

/-- A line that is written token by token is read as these tokens, with a comment behind it or
without. -/
theorem tokenize_rendered {tokens : List Token} (h : RendersAll tokens text) :
    tokenize text = .ok tokens ∧
      ∀ comment, tokenize (text ++ ' ' :: '#' :: comment) = .ok tokens := by
  constructor
  · have hread := h.tokenize ⟨by rintro _ ⟨⟩, tokenize_nil⟩
    rwa [List.append_nil] at hread
  · intro comment
    exact h.tokenize (trails_of_gap (List.forall_mem_nil _) comment)

/-- A string that ends in a backslash and holds its quote and a `#`, before a comment. -/
theorem tokenize_rendered_of_quotes :
    tokenize "x.y \t== 'it\\'s # \\\\' 1_0 # 'c".toList =
      .ok [.name "x.y", .equal, .str "it's # \\", .int 10] := by
  have hname : Renders (.name "x.y") "x.y".toList :=
    .name ⟨'x', ".y".toList, by decide, by decide, by decide⟩
  have hint : Renders (.int 10) ['1', '_', '0'] :=
    @Renders.int 10 ⟨'1', ['_', '0'], rfl, by simp [Text.isDigit]⟩ rfl
  have hstr := @Renders.str '\'' (.inl rfl) "it's # \\"
  have hequal : Renders .equal ['=', '='] := .sign rfl
  have hspace : Spaces [' '] := by simp [Spaces]
  have htab : Spaces [' ', '\t'] := by simp [Spaces]
  have hline := RendersAll.next hname htab (by decide)
    (.next hequal hspace (by decide) (.next hstr hspace (by decide) (.last hint)))
  rw [← (tokenize_rendered hline).2 " 'c".toList]
  exact congrArg tokenize (by decide +kernel)

end ScriptConsole.Script.Token
