import Mathlib.Data.Nat.Init
import Mathlib.Tactic.SplitIfs
import ScriptConsole.Json.Reader

/-!
Strings and how they are written. A string is read from every way of writing it, and nothing else
is read as a string. What a message writes of a string is one line.
-/

namespace ScriptConsole.Json

/-- What is read, without the bound on the text that is left. -/
def bare {α : Type} {P : List Char → Prop}
    (read : Except Fault (α × {rest : List Char // P rest})) :
    Except Fault (α × List Char) :=
  read.map fun found => (found.1, found.2.1)

/-- The reader gives this result and leaves this text. -/
def Reads {α : Type} {P : List Char → Prop}
    (read : Except Fault (α × {rest : List Char // P rest})) (result : α) (rest : List Char) :
    Prop :=
  bare read = .ok (result, rest)

section Bare

variable {α β : Type} {P Q : List Char → Prop} {result : α} {rest : List Char}
  {read : Except Fault (α × {rest : List Char // P rest})}

theorem reads_iff : Reads read result rest ↔ ∃ h, read = .ok (result, ⟨rest, h⟩) := by
  rw [Reads, bare]
  constructor
  · intro h
    cases read with
    | error fault => cases h
    | ok found =>
        cases h
        exact ⟨found.2.2, rfl⟩
  · rintro ⟨h, rfl⟩
    rfl

theorem Reads.left (h : Reads read result rest) : P rest := by
  obtain ⟨hrest, -⟩ := reads_iff.mp h
  exact hrest

theorem not_reads_error {fault : Fault} :
    ¬ Reads (.error fault : Except Fault (α × {rest : List Char // P rest})) result rest := by
  rintro ⟨⟩

theorem reads_ok_iff {a : α} {left : {rest : List Char // P rest}} :
    Reads (.ok (a, left)) result rest ↔ a = result ∧ left.1 = rest := by
  rw [Reads, bare, Except.map, Except.ok.injEq, Prod.mk.injEq]

variable {f : α × {rest : List Char // P rest} → β × {rest : List Char // Q rest}} {b : β}

theorem Reads.map (h : Reads read result rest) (g : α → β)
    (hf : ∀ found, (f found).1 = g found.1 ∧ (f found).2.1 = found.2.1) :
    Reads (read.map f) (g result) rest := by
  obtain ⟨hrest, rfl⟩ := reads_iff.mp h
  exact reads_ok_iff.mpr (hf _)

theorem Reads.exists_of_map (h : Reads (read.map f) b rest) (g : α → β)
    (hf : ∀ found, (f found).1 = g found.1 ∧ (f found).2.1 = found.2.1) :
    ∃ a, Reads read a rest ∧ b = g a := by
  cases read with
  | error fault => exact (not_reads_error h).elim
  | ok found =>
      obtain ⟨hresult, hrest⟩ := reads_ok_iff.mp h
      rw [(hf found).1] at hresult
      rw [(hf found).2] at hrest
      exact ⟨found.1, reads_ok_iff.mpr ⟨rfl, hrest⟩, hresult.symm⟩

end Bare

/-! ### Characters -/

/-- The texts that stand for a character in a string. -/
inductive Spells : Char → List Char → Prop where
  | plain {c : Char} (hquote : c ≠ '"') (hslash : c ≠ '\\') (hcontrol : ¬ c.toNat < 0x20) :
      Spells c [c]
  | short {c d : Char} (h : unescape? c = some d) : Spells d ['\\', c]
  | unicode {a b c d : Char} {n : Nat} (h : hexValue4? a b c d = some n)
      (hleading : isLeading n = false) (htrailing : isTrailing n = false) :
      Spells (Char.ofNat n) ['\\', 'u', a, b, c, d]
  | pair {a b c d e f g i : Char} {high low : Nat} (hhigh : hexValue4? a b c d = some high)
      (hleading : isLeading high = true) (hlow : hexValue4? e f g i = some low)
      (htrailing : isTrailing low = true) :
      Spells (joinSurrogates high low) ['\\', 'u', a, b, c, d, '\\', 'u', e, f, g, i]

theorem Spells.readChar {c : Char} {text : List Char} (h : Spells c text) (rules : Rules)
    (rest : List Char) : Reads (readChar rules (text ++ rest)) (some c) rest := by
  cases h with
  | plain hquote hslash hcontrol =>
      rw [List.singleton_append, Json.readChar]
      · rw [if_neg hcontrol, reads_ok_iff]
        exact ⟨rfl, rfl⟩
      · exact hquote
      · exact hslash
  | @short d _ h =>
      have hother : d ≠ 'u' := by
        rintro rfl
        cases h
      have hread : readEscape rules (d :: rest) = .ok (c, ⟨rest, Nat.lt_succ_self _⟩) := by
        rw [readEscape]
        · simp only [h]
        · exact hother
      rw [List.cons_append, List.singleton_append, Json.readChar, hread]
      exact reads_ok_iff.mpr ⟨rfl, rfl⟩
  | unicode h hleading htrailing =>
      simp only [List.cons_append, List.nil_append, Json.readChar, readEscape, readUnicode, h,
        hleading, htrailing, Bool.false_eq_true, if_false, Except.map, reads_ok_iff, and_self]
  | pair hhigh hleading hlow htrailing =>
      simp only [List.cons_append, List.nil_append, Json.readChar, readEscape, readUnicode, hhigh,
        hleading, readPair, hlow, htrailing, if_true, Except.map, reads_ok_iff, and_self]

section Sound

variable {rules : Rules} {s rest : List Char} {c : Char}

theorem not_reads_readLone (hpaired : rules.paired = true) {after : List Char}
    {h : after.length < s.length} : ¬ Reads (readLone rules after h) c rest := by
  rw [readLone, if_pos hpaired]
  exact not_reads_error

theorem exists_of_readPair (hpaired : rules.paired = true) {high : Nat} {after : List Char}
    {h : after.length < s.length} (hread : Reads (readPair rules high after h) c rest) :
    ∃ e f g i low, after = '\\' :: 'u' :: e :: f :: g :: i :: rest ∧
      hexValue4? e f g i = some low ∧ isTrailing low = true ∧ joinSurrogates high low = c := by
  unfold readPair at hread
  split at hread
  · next e f g i more hlonger =>
    split at hread
    · exact (not_reads_error hread).elim
    · next low hlow =>
      split at hread
      · next htrailing =>
        obtain ⟨hc, hmore⟩ := reads_ok_iff.mp hread
        exact ⟨e, f, g, i, low, by rw [← hmore], hlow, htrailing, hc⟩
      · exact (not_reads_readLone hpaired hread).elim
  · exact (not_reads_readLone hpaired hread).elim

theorem spells_of_readUnicode (hpaired : rules.paired = true)
    (hread : Reads (readUnicode rules s) c rest) :
    ∃ text, Spells c ('\\' :: 'u' :: text) ∧ s = text ++ rest := by
  unfold readUnicode at hread
  split at hread
  · next a b c' d more =>
    split at hread
    · exact (not_reads_error hread).elim
    · next n hn =>
      split at hread
      · next hleading =>
        obtain ⟨e, f, g, i, low, rfl, hlow, htrailing, rfl⟩ := exists_of_readPair hpaired hread
        exact ⟨_, .pair hn hleading hlow htrailing, rfl⟩
      · next hleading =>
        split at hread
        · exact (not_reads_readLone hpaired hread).elim
        · next htrailing =>
          obtain ⟨rfl, rfl⟩ := reads_ok_iff.mp hread
          exact ⟨[a, b, c', d], .unicode hn (Bool.eq_false_iff.mpr hleading)
            (Bool.eq_false_iff.mpr htrailing), rfl⟩
  · exact (not_reads_error hread).elim

theorem spells_of_readEscape (hpaired : rules.paired = true)
    (hread : Reads (readEscape rules s) c rest) :
    ∃ text, Spells c ('\\' :: text) ∧ s = text ++ rest := by
  unfold readEscape at hread
  split at hread
  · exact (not_reads_error hread).elim
  · next more =>
    obtain ⟨_, hmore, rfl⟩ := hread.exists_of_map id fun _ => ⟨rfl, rfl⟩
    obtain ⟨text, htext, rfl⟩ := spells_of_readUnicode hpaired hmore
    exact ⟨_, htext, rfl⟩
  · next first more hother =>
    split at hread
    · exact (not_reads_error hread).elim
    · next hshort =>
      obtain ⟨rfl, rfl⟩ := reads_ok_iff.mp hread
      exact ⟨_, .short hshort, rfl⟩

theorem spells_of_readChar (hpaired : rules.paired = true)
    (hread : Reads (readChar rules s) (some c) rest) :
    ∃ text, Spells c text ∧ s = text ++ rest := by
  unfold readChar at hread
  split at hread
  · exact (not_reads_error hread).elim
  · cases (reads_ok_iff.mp hread).1
  · next more =>
    obtain ⟨_, hmore, hc⟩ := hread.exists_of_map some fun _ => ⟨rfl, rfl⟩
    obtain ⟨text, htext, rfl⟩ := spells_of_readEscape hpaired hmore
    cases hc
    exact ⟨_, htext, rfl⟩
  · next first more hquote hslash =>
    split at hread
    · exact (not_reads_error hread).elim
    · next hcontrol =>
      obtain ⟨hc, rfl⟩ := reads_ok_iff.mp hread
      cases hc
      exact ⟨[c], .plain (fun heq => hquote heq) (fun heq => hslash heq) hcontrol, rfl⟩

theorem eq_of_readChar_none (hread : Reads (readChar rules s) none rest) : s = '"' :: rest := by
  unfold readChar at hread
  split at hread
  · exact (not_reads_error hread).elim
  · exact congrArg ('"' :: ·) (reads_ok_iff.mp hread).2
  · obtain ⟨_, -, hc⟩ := hread.exists_of_map some fun _ => ⟨rfl, rfl⟩
    cases hc
  · split at hread
    · exact (not_reads_error hread).elim
    · cases (reads_ok_iff.mp hread).1

end Sound

/-! ### Strings -/

/-- The texts that stand between the quotes of a string. -/
inductive SpellsAll : List Char → List Char → Prop where
  | nil : SpellsAll [] []
  | cons {c : Char} {text : List Char} {cs body : List Char} (h : Spells c text)
      (hmore : SpellsAll cs body) : SpellsAll (c :: cs) (text ++ body)

theorem SpellsAll.readString {cs body : List Char} (h : SpellsAll cs body) (rules : Rules)
    (rest : List Char) : Reads (readString rules (body ++ '"' :: rest)) cs rest := by
  induction h with
  | nil =>
      have hclose : readChar rules ('"' :: rest) = .ok (none, ⟨rest, Nat.lt_succ_self _⟩) := rfl
      rw [List.nil_append, Json.readString, hclose]
      exact reads_ok_iff.mpr ⟨rfl, rfl⟩
  | @cons c text cs body h hmore ih =>
      obtain ⟨hshorter, hread⟩ := reads_iff.mp (h.readChar rules (body ++ '"' :: rest))
      rw [List.append_assoc, Json.readString, hread]
      exact ih.map (c :: ·) fun _ => ⟨rfl, rfl⟩

theorem spellsAll_of_readString {rules : Rules} (hpaired : rules.paired = true)
    {s cs rest : List Char} (hread : Reads (readString rules s) cs rest) :
    ∃ body, SpellsAll cs body ∧ s = body ++ '"' :: rest := by
  induction hlength : s.length using Nat.strongRecOn generalizing s cs rest with
  | ind n ih =>
    subst hlength
    rw [readString] at hread
    split at hread
    · exact (not_reads_error hread).elim
    · next found hfound =>
      obtain ⟨rfl, hrest⟩ := reads_ok_iff.mp hread
      have hclose : Reads (readChar rules s) none rest := by
        rw [hfound]
        exact reads_ok_iff.mpr ⟨rfl, hrest⟩
      exact ⟨[], .nil, eq_of_readChar_none hclose⟩
    · next c between hshorter hfound =>
      obtain ⟨more, hmore, rfl⟩ := hread.exists_of_map (c :: ·) fun _ => ⟨rfl, rfl⟩
      have hfirst : Reads (readChar rules s) (some c) between := by
        rw [hfound]
        exact reads_ok_iff.mpr ⟨rfl, rfl⟩
      obtain ⟨text, htext, rfl⟩ := spells_of_readChar hpaired hfirst
      obtain ⟨body, hbody, rfl⟩ := ih between.length hshorter hmore rfl
      exact ⟨text ++ body, .cons htext hbody, (List.append_assoc _ _ _).symm⟩

/-! ### Written strings -/

theorem hexValue_hexDigit {n : Nat} (hn : n < 16) : hexValue? (hexDigit n) = some n := by
  have hall : ∀ n < 16, hexValue? (hexDigit n) = some n := by decide
  exact hall n hn

theorem hexValue4_control {n : Nat} (hn : n < 0x20) :
    hexValue4? '0' '0' (hexDigit (n / 16)) (hexDigit (n % 16)) = some n := by
  have hzero : hexValue? '0' = some 0 := rfl
  simp only [hexValue4?, hzero, hexValue_hexDigit (show n / 16 < 16 by omega),
    hexValue_hexDigit (show n % 16 < 16 by omega), Option.bind_eq_bind, Option.bind_some,
    Option.pure_def, Option.some.injEq]
  omega

theorem spells_escape (c : Char) : Spells c (escape c) := by
  rw [escape]
  split_ifs with hquote hslash hback hform hline hreturn htab hcontrol
  · exact .short (congrArg some hquote.symm)
  · exact .short (congrArg some hslash.symm)
  · exact .short (congrArg some hback.symm)
  · exact .short (congrArg some hform.symm)
  · exact .short (congrArg some hline.symm)
  · exact .short (congrArg some hreturn.symm)
  · exact .short (congrArg some htab.symm)
  · have hspells := @Spells.unicode _ _ _ _ _ (hexValue4_control hcontrol)
      (by simp [isLeading]; omega) (by simp [isTrailing]; omega)
    rwa [Char.ofNat_toNat] at hspells
  · exact .plain hquote hslash hcontrol

theorem spellsAll_escape (text : List Char) : SpellsAll text (text.flatMap escape) := by
  induction text with
  | nil => exact .nil
  | cons c text ih => exact .cons (spells_escape c) ih

/-- Characters that may stand in one line of text. -/
def InLine (s : List Char) : Prop :=
  ∀ c ∈ s, c ≠ '\n' ∧ c ≠ '\r'

theorem InLine.append {s t : List Char} (hs : InLine s) (ht : InLine t) : InLine (s ++ t) := by
  intro c hc
  rcases List.mem_append.mp hc with hc | hc
  · exact hs c hc
  · exact ht c hc

theorem InLine.cons {c : Char} {s : List Char} (hc : c ≠ '\n' ∧ c ≠ '\r') (hs : InLine s) :
    InLine (c :: s) := by
  intro d hd
  rcases List.mem_cons.mp hd with rfl | hd
  · exact hc
  · exact hs d hd

theorem inLine_escape (c : Char) : InLine (escape c) := by
  have hdigit : ∀ n < 16, hexDigit n ≠ '\n' ∧ hexDigit n ≠ '\r' := by decide
  unfold escape
  split_ifs with hquote hbackslash hback hform hline hreturn htab hcontrol
  iterate 7 exact .cons (by decide) (.cons (by decide) (by rintro _ ⟨⟩))
  · refine .cons (by decide) (.cons (by decide) (.cons (by decide) (.cons (by decide)
      (.cons (hdigit _ ?_) (.cons (hdigit _ ?_) (by rintro _ ⟨⟩))))))
    · omega
    · omega
  · exact .cons ⟨hline, hreturn⟩ (by rintro _ ⟨⟩)

theorem inLine_writeString (text : String) : InLine (writeString text) := by
  refine .cons (by decide) (.append ?_ (.cons (by decide) (by rintro _ ⟨⟩)))
  intro d hd
  obtain ⟨c, -, hd⟩ := List.mem_flatMap.mp hd
  exact inLine_escape c d hd

end ScriptConsole.Json
