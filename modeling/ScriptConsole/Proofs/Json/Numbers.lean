import ScriptConsole.Proofs.Json.Strings
import ScriptConsole.Proofs.Text.Decimal
import ScriptConsole.Proofs.Text.Lines

/-!
Numbers and how they are written. A number is read as far as its text goes, and only what is a
number by the grammar is read as one.
-/

namespace ScriptConsole.Json

/-- At least one digit, and nothing else. -/
structure Digits (digits : List Char) : Prop where
  full : digits ≠ []
  isDigit : ∀ c ∈ digits, Text.isDigit c = true

inductive WritesFraction : List Char → List Char → Prop where
  | none : WritesFraction [] []
  | point {digits : List Char} (h : Digits digits) : WritesFraction digits ('.' :: digits)

inductive WritesExponent : Option Exponent → List Char → Prop where
  | none : WritesExponent none []
  | bare {letter : Char} {digits : List Char} (hletter : letter = 'e' ∨ letter = 'E')
      (h : Digits digits) : WritesExponent (some ⟨false, digits⟩) (letter :: digits)
  | plus {letter : Char} {digits : List Char} (hletter : letter = 'e' ∨ letter = 'E')
      (h : Digits digits) : WritesExponent (some ⟨false, digits⟩) (letter :: '+' :: digits)
  | minus {letter : Char} {digits : List Char} (hletter : letter = 'e' ∨ letter = 'E')
      (h : Digits digits) : WritesExponent (some ⟨true, digits⟩) (letter :: '-' :: digits)

def signText (negative : Bool) : List Char :=
  if negative then ['-'] else []

/-- The texts that stand for a number. -/
inductive WritesNumber (rules : Rules) : Number → List Char → Prop where
  | mk {number : Number} {fraction exponent : List Char}
      (hdigits : ∀ c ∈ number.whole, Text.isDigit c = true)
      (hwhole : isWhole number.whole = true) (hfraction : WritesFraction number.fraction fraction)
      (hexponent : WritesExponent number.exponent exponent)
      (hfinite : rules.finite = true → number.isFinite = true) :
      WritesNumber rules number
        (signText number.negative ++ (number.whole ++ (fraction ++ exponent)))

/-- The text does not go on with a number. -/
def EndsNumber (rest : List Char) : Prop :=
  ∀ c ∈ rest.head?, Text.isDigit c = false ∧ c ≠ '.' ∧ c ≠ 'e' ∧ c ≠ 'E'

theorem endsNumber_nil : EndsNumber [] := by
  rintro _ ⟨⟩

section Bind

variable {α β : Type} {P Q : List Char → Prop} {a : α} {b : β} {between rest : List Char}
  {read : Except Fault (α × {rest : List Char // P rest})}
  {next : α × {rest : List Char // P rest} → Except Fault (β × {rest : List Char // Q rest})}

theorem Reads.bind (h : Reads read a between)
    (hnext : ∀ h, Reads (next (a, ⟨between, h⟩)) b rest) : Reads (read >>= next) b rest := by
  obtain ⟨hbetween, rfl⟩ := reads_iff.mp h
  exact hnext hbetween

theorem Reads.exists_of_bind (h : Reads (read >>= next) b rest) :
    ∃ a between h, Reads read a between ∧ Reads (next (a, ⟨between, h⟩)) b rest := by
  cases read with
  | error fault => exact (not_reads_error h).elim
  | ok found =>
      obtain ⟨a, between, hbetween⟩ := found
      exact ⟨a, between, hbetween, reads_ok_iff.mpr ⟨rfl, rfl⟩, h⟩

end Bind

/-! ### Digits -/

theorem readDigits_run {digits rest : List Char} (hdigits : ∀ c ∈ digits, Text.isDigit c = true)
    (hrest : ∀ c ∈ rest.head?, Text.isDigit c = false) :
    ∃ h, readDigits (digits ++ rest) = (digits, ⟨rest, h⟩) := by
  obtain ⟨htake, hdrop⟩ := Text.takeWhile_run hdigits hrest
  refine ⟨(List.suffix_append digits rest).length_le, ?_⟩
  exact Prod.ext htake (Subtype.ext hdrop)

theorem exists_readDigits (s : List Char) :
    ∃ digits rest h, readDigits s = (digits, ⟨rest, h⟩) ∧ s = digits ++ rest ∧
      ∀ c ∈ digits, Text.isDigit c = true :=
  ⟨_, _, _, rfl, List.takeWhile_append_dropWhile.symm, fun _ hc => List.mem_takeWhile_imp hc⟩

/-! ### Fractions -/

theorem WritesFraction.reads {digits text rest : List Char} (h : WritesFraction digits text)
    (hrest : ∀ c ∈ rest.head?, Text.isDigit c = false ∧ c ≠ '.') :
    Reads (readFraction (text ++ rest)) digits rest := by
  cases h with
  | none =>
      have hread : readFraction rest = .ok ([], ⟨rest, Nat.le_refl _⟩) := by
        rw [readFraction]
        rintro more rfl
        exact (hrest '.' rfl).2 rfl
      rw [List.nil_append, hread]
      exact reads_ok_iff.mpr ⟨rfl, rfl⟩
  | point h =>
      obtain ⟨hle, hread⟩ := readDigits_run h.isDigit fun c hc => (hrest c hc).1
      rw [List.cons_append, readFraction, hread]
      split
      · next heq => exact absurd (Prod.mk.inj heq).1 h.full
      · next heq =>
        cases heq
        exact reads_ok_iff.mpr ⟨rfl, rfl⟩

theorem writes_of_readFraction {s digits rest : List Char}
    (hread : Reads (readFraction s) digits rest) :
    ∃ text, WritesFraction digits text ∧ s = text ++ rest := by
  unfold readFraction at hread
  split at hread
  · next more =>
    obtain ⟨found, after, hle, hdigits, rfl, hall⟩ := exists_readDigits more
    rw [hdigits] at hread
    split at hread
    · exact (not_reads_error hread).elim
    · next hfull heq =>
      cases heq
      obtain ⟨rfl, rfl⟩ := reads_ok_iff.mp hread
      exact ⟨_, .point ⟨hfull, hall⟩, rfl⟩
  · obtain ⟨rfl, rfl⟩ := reads_ok_iff.mp hread
    exact ⟨[], .none, rfl⟩

/-! ### Exponents -/

theorem readExponentDigits_run {digits rest : List Char} (h : Digits digits)
    (hrest : ∀ c ∈ rest.head?, Text.isDigit c = false) (negative : Bool) :
    Reads (readExponentDigits negative (digits ++ rest)) (some ⟨negative, digits⟩) rest := by
  obtain ⟨hle, hread⟩ := readDigits_run h.isDigit hrest
  rw [readExponentDigits, hread]
  split
  · next heq => exact absurd (Prod.mk.inj heq).1 h.full
  · next heq =>
    cases heq
    exact reads_ok_iff.mpr ⟨rfl, rfl⟩

theorem digits_of_readExponentDigits {negative : Bool} {s rest : List Char}
    {exponent : Option Exponent} (hread : Reads (readExponentDigits negative s) exponent rest) :
    ∃ digits, Digits digits ∧ exponent = some ⟨negative, digits⟩ ∧ s = digits ++ rest := by
  obtain ⟨found, after, hle, hdigits, rfl, hall⟩ := exists_readDigits s
  rw [readExponentDigits, hdigits] at hread
  split at hread
  · exact (not_reads_error hread).elim
  · next hfull heq =>
    cases heq
    obtain ⟨rfl, rfl⟩ := reads_ok_iff.mp hread
    exact ⟨found, ⟨fun hnil => hfull _ _ hnil rfl, hall⟩, rfl, rfl⟩

theorem WritesExponent.reads {exponent : Option Exponent} {text rest : List Char}
    (h : WritesExponent exponent text) (hrest : EndsNumber rest) :
    Reads (readExponent (text ++ rest)) exponent rest := by
  have hdigit : ∀ c ∈ rest.head?, Text.isDigit c = false := fun c hc => (hrest c hc).1
  cases h with
  | none =>
      rw [List.nil_append]
      cases rest with
      | nil => exact reads_ok_iff.mpr ⟨rfl, rfl⟩
      | cons c rest =>
          obtain ⟨-, -, hlower, hupper⟩ := hrest c rfl
          unfold readExponent
          dsimp only
          rw [if_neg (not_or.mpr ⟨hlower, hupper⟩)]
          exact reads_ok_iff.mpr ⟨rfl, rfl⟩
  | @bare letter digits hletter h =>
      have hread := readExponentDigits_run h hdigit false
      obtain ⟨first, more, rfl⟩ := List.exists_cons_of_ne_nil h.full
      have hfirst : Text.isDigit first = true := h.isDigit first List.mem_cons_self
      rw [List.cons_append, readExponent, if_pos hletter]
      · exact hread.map id fun _ => ⟨rfl, rfl⟩
      · rintro rest heq
        rw [(List.cons.inj heq).1] at hfirst
        cases hfirst
      · rintro rest heq
        rw [(List.cons.inj heq).1] at hfirst
        cases hfirst
  | plus hletter h =>
      rw [List.cons_append, List.cons_append, readExponent, if_pos hletter]
      exact (readExponentDigits_run h hdigit false).map id fun _ => ⟨rfl, rfl⟩
  | minus hletter h =>
      rw [List.cons_append, List.cons_append, readExponent, if_pos hletter]
      exact (readExponentDigits_run h hdigit true).map id fun _ => ⟨rfl, rfl⟩

theorem writes_of_readExponent {s rest : List Char} {exponent : Option Exponent}
    (hread : Reads (readExponent s) exponent rest) :
    ∃ text, WritesExponent exponent text ∧ s = text ++ rest := by
  unfold readExponent at hread
  split at hread
  · obtain ⟨rfl, rfl⟩ := reads_ok_iff.mp hread
    exact ⟨[], .none, rfl⟩
  · next letter more =>
    split at hread
    · next hletter =>
      split at hread
      · obtain ⟨_, hdigits, rfl⟩ := hread.exists_of_map id fun _ => ⟨rfl, rfl⟩
        obtain ⟨digits, h, rfl, rfl⟩ := digits_of_readExponentDigits hdigits
        exact ⟨_, .plus hletter h, rfl⟩
      · obtain ⟨_, hdigits, rfl⟩ := hread.exists_of_map id fun _ => ⟨rfl, rfl⟩
        obtain ⟨digits, h, rfl, rfl⟩ := digits_of_readExponentDigits hdigits
        exact ⟨_, .minus hletter h, rfl⟩
      · obtain ⟨_, hdigits, rfl⟩ := hread.exists_of_map id fun _ => ⟨rfl, rfl⟩
        obtain ⟨digits, h, rfl, rfl⟩ := digits_of_readExponentDigits hdigits
        exact ⟨_, .bare hletter h, rfl⟩
    · obtain ⟨rfl, rfl⟩ := reads_ok_iff.mp hread
      exact ⟨[], .none, rfl⟩

/-! ### Whole numbers -/

theorem WritesExponent.head {exponent : Option Exponent} {text : List Char}
    (h : WritesExponent exponent text) {rest : List Char} (hrest : EndsNumber rest) :
    ∀ c ∈ (text ++ rest).head?, Text.isDigit c = false ∧ c ≠ '.' := by
  have hletter : ∀ {letter : Char}, letter = 'e' ∨ letter = 'E' →
      Text.isDigit letter = false ∧ letter ≠ '.' := by
    rintro _ (rfl | rfl) <;> decide
  intro c hc
  cases h with
  | none => exact ⟨(hrest c hc).1, (hrest c hc).2.1⟩
  | bare h => 
      cases hc
      exact hletter h
  | plus h => 
      cases hc
      exact hletter h
  | minus h => 
      cases hc
      exact hletter h

theorem WritesFraction.head {digits text : List Char} (h : WritesFraction digits text)
    {rest : List Char} (hrest : ∀ c ∈ rest.head?, Text.isDigit c = false) :
    ∀ c ∈ (text ++ rest).head?, Text.isDigit c = false := by
  intro c hc
  cases h with
  | none => exact hrest c hc
  | point h =>
      cases hc
      rfl

/-- The first digits of the whole part may have been read before. -/
theorem reads_readNumber (first : List Char) {rules : Rules} {number : Number}
    {digits fraction exponent rest : List Char} (hsplit : number.whole = first ++ digits)
    (hdigits : ∀ c ∈ number.whole, Text.isDigit c = true) (hwhole : isWhole number.whole = true)
    (hfraction : WritesFraction number.fraction fraction)
    (hexponent : WritesExponent number.exponent exponent)
    (hfinite : rules.finite = true → number.isFinite = true) (hrest : EndsNumber rest) :
    Reads (readNumber rules number.negative first (digits ++ (fraction ++ (exponent ++ rest))))
      number rest := by
  obtain ⟨negative, whole, fractionDigits, power⟩ := number
  obtain rfl : whole = first ++ digits := hsplit
  have hmore : ∀ c ∈ digits, Text.isDigit c = true :=
    fun c hc => hdigits c (List.mem_append_right first hc)
  have hafter := hexponent.head hrest
  obtain ⟨hle, hread⟩ := readDigits_run hmore (hfraction.head fun c hc => (hafter c hc).1)
  rw [readNumber, hread]
  simp only [hwhole, if_true]
  apply (hfraction.reads hafter).bind
  intro hle
  apply (hexponent.reads hrest).bind
  intro hle
  have hfits : (rules.finite && !Number.isFinite ⟨negative, first ++ digits, fractionDigits, power⟩)
      = false := by
    cases hrules : rules.finite with
    | false => rfl
    | true =>
        rw [hfinite hrules]
        rfl
  simp only [hfits, Bool.false_eq_true, if_false]
  exact reads_ok_iff.mpr ⟨rfl, rfl⟩

theorem writes_of_readNumber {rules : Rules} {negative : Bool} {first s rest : List Char}
    {number : Number} (hfirst : ∀ c ∈ first, Text.isDigit c = true)
    (hread : Reads (readNumber rules negative first s) number rest) :
    ∃ text, WritesNumber rules number (signText negative ++ (first ++ text)) ∧
      s = text ++ rest := by
  obtain ⟨digits, after, hle, hdigits, rfl, hall⟩ := exists_readDigits s
  rw [readNumber, hdigits] at hread
  dsimp only at hread
  split at hread
  · next hwhole =>
    obtain ⟨fractionDigits, between, hle₂, hreadFraction, hread⟩ := hread.exists_of_bind
    obtain ⟨power, last, hle₃, hreadPower, hread⟩ := hread.exists_of_bind
    obtain ⟨fraction, hfraction, rfl⟩ := writes_of_readFraction hreadFraction
    obtain ⟨exponent, hexponent, rfl⟩ := writes_of_readExponent hreadPower
    dsimp only at hread
    split at hread
    · exact (not_reads_error hread).elim
    · next hfits =>
      obtain ⟨rfl, rfl⟩ := reads_ok_iff.mp hread
      have hnumber : WritesNumber rules ⟨negative, first ++ digits, fractionDigits, power⟩
          (signText negative ++ ((first ++ digits) ++ (fraction ++ exponent))) := by
        apply WritesNumber.mk _ hwhole hfraction hexponent
        · simpa using hfits
        · intro c hc
          rcases List.mem_append.mp hc with hc | hc
          · exact hfirst c hc
          · exact hall c hc
      rw [List.append_assoc] at hnumber
      exact ⟨_, hnumber, by simp⟩
  · exact (not_reads_error hread).elim

theorem isWhole_decimal (n : Nat) : isWhole (Text.decimal n) = true := by
  induction n using Nat.strongRecOn with
  | _ n ih =>
      rcases Nat.lt_or_ge n 10 with hlt | hge
      · have hall : ∀ n < 10, isWhole (Text.decimal n) = true := by decide
        exact hall n hlt
      · have hsplit : Text.decimal n = Text.decimal (n / 10) ++ [(n % 10).digitChar] :=
          Nat.toDigits_of_base_le (by decide) hge
        have hfirst := ih (n / 10) (by omega)
        have hpos : n / 10 ≠ 0 := by omega
        rw [hsplit]
        cases hdigits : Text.decimal (n / 10) with
        | nil => exact absurd hdigits Nat.toDigits_ne_nil
        | cons d digits =>
            rw [hdigits] at hfirst
            have hzero : d ≠ '0' := by
              rintro rfl
              have hnil : digits = [] := by simpa [isWhole] using hfirst
              have hvalue := Nat.ofDigitChars_ten_toDigits (n := n / 10)
              rw [show Nat.toDigits 10 (n / 10) = ['0'] by rw [← hnil]; exact hdigits] at hvalue
              exact hpos hvalue.symm
            rw [List.cons_append]
            exact isWhole.eq_3 _ (by rintro ⟨⟩) fun _ hcons => hzero (List.cons.inj hcons).1

theorem keepWhole_digits (digits : List Char) (value : Nat)
    (hlt : Nat.ofDigitChars 10 digits value < UInt64.size) :
    digits.foldl Number.keepWhole (value, 0) = (Nat.ofDigitChars 10 digits value, 0) := by
  induction digits generalizing value with
  | nil => rfl
  | cons c digits ih =>
      rw [Nat.ofDigitChars_cons] at hlt
      have hvalue : value * 10 + Number.digitValue c = 10 * value + (c.toNat - '0'.toNat) := by
        rw [Number.digitValue, Nat.mul_comm]
      have hnext : value * 10 + Number.digitValue c < UInt64.size := by
        rw [hvalue]
        rw [Nat.ofDigitChars_eq_ofDigitChars_zero] at hlt
        have hpow : 0 < 10 ^ digits.length := Nat.pow_pos (by decide)
        have := Nat.le_mul_of_pos_left (10 * value + (c.toNat - '0'.toNat)) hpow
        omega
      rw [List.foldl_cons, Nat.ofDigitChars_cons, ← hvalue]
      simp only [Number.keepWhole, hnext, and_self, if_true]
      exact ih _ (by rw [hvalue]; exact hlt)

theorem isFinite_ofNat {n : Nat} (hn : n < UInt64.size) : (Number.ofNat n).isFinite = true := by
  have hvalue : Nat.ofDigitChars 10 (Text.decimal n) 0 = n := Nat.ofDigitChars_ten_toDigits
  have hkept := keepWhole_digits (Text.decimal n) 0 (by rwa [hvalue])
  simp only [Number.isFinite, Number.ofNat, hkept, List.foldl_nil, and_self, if_true]
  split <;> rfl

theorem toUInt64_ofNat (n : UInt64) : (Number.ofNat n.toNat).toUInt64? = some n := by
  have hvalue : Nat.ofDigitChars 10 (Text.decimal n.toNat) 0 = n.toNat :=
    Nat.ofDigitChars_ten_toDigits
  simp only [Number.ofNat, Number.toUInt64?, hvalue]
  rw [if_pos n.toNat_lt_size, UInt64.ofNat_toNat]

end ScriptConsole.Json
