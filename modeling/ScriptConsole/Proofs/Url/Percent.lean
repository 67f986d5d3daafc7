import ScriptConsole.Proofs.Text.Bytes
import ScriptConsole.Url.Percent

/-!
Bytes that were written as a segment of a URL are read back. No character of such a segment is one
that a reader strips, splits at or takes for the end of the path.
-/

namespace ScriptConsole.Url

/-- Bytes as a segment of a URL. -/
def segmentOf (bytes : List UInt8) : List Char :=
  bytes.flatMap encodeByte

/-! ### The characters of a segment -/

/-- A character that means nothing to a reader of a URL. -/
def isTame (c : Char) : Bool :=
  0x20 < c.toNat && c.toNat < 0x7F && c != '/' && c != '\\' && c != '?' && c != '#'

theorem isTame_iff {c : Char} :
    isTame c = true ↔
      0x20 < c.toNat ∧ c.toNat < 0x7F ∧ c ≠ '/' ∧ c ≠ '\\' ∧ c ≠ '?' ∧ c ≠ '#' := by
  simp [isTame, and_assoc]

theorem isTame_hexUpper : ∀ n < 16, isTame (hexUpper n) = true := by
  decide

theorem isPlain_iff {b : UInt8} :
    isPlain b = true ↔ 0x20 < b ∧ b < 0x7F ∧ Char.ofNat b.toNat ∉ reserved := by
  simp [isPlain, and_assoc]

theorem toNat_ofNat_byte {b : UInt8} (h : b < 0x7F) : (Char.ofNat b.toNat).toNat = b.toNat := by
  have hsmall : b.toNat < 0x7F := UInt8.lt_iff_toNat_lt.mp h
  have hvalid : b.toNat.isValidChar := .inl (by omega)
  rw [Char.ofNat, dif_pos hvalid]
  rfl

theorem isTame_of_isPlain {b : UInt8} (h : isPlain b = true) :
    isTame (Char.ofNat b.toNat) = true := by
  obtain ⟨hlow, hhigh, hreserved⟩ := isPlain_iff.mp h
  have hvalue := toNat_ofNat_byte hhigh
  have hlow : 0x20 < b.toNat := UInt8.lt_iff_toNat_lt.mp hlow
  have hhigh : b.toNat < 0x7F := UInt8.lt_iff_toNat_lt.mp hhigh
  have hother (c : Char) (hc : c ∈ reserved) : Char.ofNat b.toNat ≠ c :=
    fun h => hreserved (h ▸ hc)
  rw [isTame_iff, hvalue]
  exact ⟨hlow, hhigh, hother _ (by decide), hother _ (by decide), hother _ (by decide),
    hother _ (by decide)⟩

theorem isTame_of_mem_encodeByte {b : UInt8} {c : Char} (hc : c ∈ encodeByte b) :
    isTame c = true := by
  have hbyte := b.toNat_lt
  rw [encodeByte] at hc
  split at hc
  · next hplain =>
    obtain rfl := List.mem_singleton.mp hc
    exact isTame_of_isPlain hplain
  · simp only [List.mem_cons, List.not_mem_nil, or_false] at hc
    rcases hc with rfl | rfl | rfl
    · rfl
    · exact isTame_hexUpper _ (by omega)
    · exact isTame_hexUpper _ (by omega)

theorem isTame_of_mem_segmentOf {bytes : List UInt8} {c : Char} (hc : c ∈ segmentOf bytes) :
    isTame c = true := by
  obtain ⟨b, -, hb⟩ := List.mem_flatMap.mp hc
  exact isTame_of_mem_encodeByte hb

/-! ### Reading a segment back -/

theorem hexValue_hexUpper :
    ∀ n < 16, hexValue? (UInt8.ofNat (hexUpper n).toNat) = some (UInt8.ofNat n) := by
  decide

theorem decodePercent_cons {b : UInt8} (hb : b ≠ 37) (rest : List UInt8) :
    decodePercent (b :: rest) = b :: decodePercent rest := by
  rw [decodePercent]
  rintro _ _ _ rfl
  exact absurd rfl hb

theorem decodePercent_encodeByte (b : UInt8) (rest : List UInt8) :
    decodePercent ((encodeByte b).map (fun c => UInt8.ofNat c.toNat) ++ rest) =
      b :: decodePercent rest := by
  have hbyte := b.toNat_lt
  rw [encodeByte]
  split
  · next hplain =>
    obtain ⟨-, hhigh, hreserved⟩ := isPlain_iff.mp hplain
    have hself : UInt8.ofNat (Char.ofNat b.toNat).toNat = b := by
      rw [toNat_ofNat_byte hhigh, UInt8.ofNat_toNat]
    rw [List.map_singleton, hself, List.singleton_append, decodePercent_cons]
    rintro rfl
    exact hreserved (by decide)
  · have hpercent : UInt8.ofNat '%'.toNat = 37 := rfl
    have hvalue : UInt8.ofNat (b.toNat / 16) * 16 + UInt8.ofNat (b.toNat % 16) = b := by
      apply UInt8.toNat.inj
      simp only [UInt8.toNat_add, UInt8.toNat_mul, UInt8.toNat_ofNat']
      simp
      omega
    simp only [List.map_cons, List.map_nil, List.cons_append, List.nil_append, hpercent,
      decodePercent, hexValue_hexUpper _ (show b.toNat / 16 < 16 by omega),
      hexValue_hexUpper _ (show b.toNat % 16 < 16 by omega), hvalue]

theorem segmentBytes_segmentOf (bytes : List UInt8) : segmentBytes (segmentOf bytes) = bytes := by
  rw [segmentBytes, Text.toBytes_of_ascii]
  · induction bytes with
    | nil => rfl
    | cons b bytes ih =>
        rw [segmentOf, List.flatMap_cons, List.map_append, decodePercent_encodeByte]
        exact congrArg (b :: ·) ih
  · intro c hc
    have := isTame_iff.mp (isTame_of_mem_segmentOf hc)
    omega

theorem segmentOf_injective : Function.Injective segmentOf :=
  Function.LeftInverse.injective segmentBytes_segmentOf

end ScriptConsole.Url
