import ScriptConsole.Text.Decimal

/-!
Numerals are read back as the numbers that they were written for. An integer is read exactly, or
not at all if it does not fit 64 bits.
-/

namespace ScriptConsole.Text

theorem toNat_of_isDigit {c : Char} (h : isDigit c = true) : 48 ≤ c.toNat ∧ c.toNat ≤ 57 := by
  simpa [isDigit, Char.le_def, UInt32.le_iff_toNat_le] using h

theorem isDigit_of_mem_decimal {n : Nat} {c : Char} (hc : c ∈ decimal n) : isDigit c = true := by
  have h := Nat.isDigit_of_mem_toDigits (by decide) (by decide) hc
  simp only [Char.isDigit, ge_iff_le, Bool.and_eq_true, decide_eq_true_eq] at h
  simp only [isDigit, Bool.and_eq_true, decide_eq_true_eq]
  exact h

theorem decimal_ne_nil (n : Nat) : decimal n ≠ [] :=
  Nat.toDigits_ne_nil

theorem exists_decimal_cons (n : Nat) : ∃ c digits, decimal n = c :: digits ∧
    isDigit c = true ∧ ∀ d ∈ digits, isDigit d = true := by
  obtain ⟨c, digits, hdecimal⟩ := List.exists_cons_of_ne_nil (decimal_ne_nil n)
  have hdigits : ∀ d ∈ c :: digits, isDigit d = true :=
    fun d hd => isDigit_of_mem_decimal (n := n) (hdecimal ▸ hd)
  exact ⟨c, digits, hdecimal, List.forall_mem_cons.mp hdigits⟩

theorem readDecimal?_of_digits {digits : List Char} (hfull : digits ≠ [])
    (hdigits : ∀ c ∈ digits, isDigit c = true) :
    readDecimal? digits = some (Nat.ofDigitChars 10 digits 0) := by
  rw [readDecimal?, if_neg hfull, if_pos (List.all_eq_true.mpr hdigits)]

theorem readDecimal?_decimal (n : Nat) : readDecimal? (decimal n) = some n := by
  rw [readDecimal?_of_digits (decimal_ne_nil n) fun c hc => isDigit_of_mem_decimal hc]
  exact congrArg some Nat.ofDigitChars_ten_toDigits

/-! ### Integers of 64 bits -/

/-- The integer is one of 64 bits. -/
def Fits64 (n : Int) : Prop :=
  -9223372036854775808 ≤ n ∧ n ≤ 9223372036854775807

instance : DecidablePred Fits64 :=
  fun n => inferInstanceAs (Decidable (-9223372036854775808 ≤ n ∧ n ≤ 9223372036854775807))

theorem fits64_toInt (n : Int64) : Fits64 n.toInt := by
  have hlow := n.le_toInt
  have hhigh := n.toInt_lt
  rw [Fits64]
  omega

theorem Fits64.toInt_ofInt {n : Int} (h : Fits64 n) : (Int64.ofInt n).toInt = n := by
  rw [Fits64] at h
  apply Int64.toInt_ofInt_of_le <;> omega

theorem Fits64.toInt64? {n : Int} (h : Fits64 n) : toInt64? n = some (Int64.ofInt n) := by
  rw [Fits64] at h
  rw [Text.toInt64?, if_pos (by omega)]

theorem toInt64?_eq_none {n : Int} (h : ¬ Fits64 n) : toInt64? n = none := by
  rw [Fits64] at h
  rw [toInt64?, if_neg (by omega)]

theorem toInt64?_toInt (n : Int64) : toInt64? n.toInt = some n := by
  rw [(fits64_toInt n).toInt64?, Int64.ofInt_toInt]

theorem readInt64?_digits {c : Char} {digits : List Char} (hc : isDigit c = true) :
    readInt64? (c :: digits) = (readDecimal? (c :: digits)).bind fun n => toInt64? n := by
  rw [readInt64?]
  · rfl
  · rintro rest hminus
    rw [(List.cons.inj hminus).1] at hc
    exact absurd hc (by decide)
  · rintro rest hplus
    rw [(List.cons.inj hplus).1] at hc
    exact absurd hc (by decide)

theorem readInt64?_decimal {n : Int64} {k : Nat} (hn : n.toInt = k) :
    readInt64? (decimal k) = some n := by
  obtain ⟨c, digits, hdecimal, hc, -⟩ := exists_decimal_cons k
  rw [hdecimal, readInt64?_digits hc, ← hdecimal, readDecimal?_decimal]
  show toInt64? (k : Int) = some n
  rw [← hn, toInt64?_toInt]

end ScriptConsole.Text
