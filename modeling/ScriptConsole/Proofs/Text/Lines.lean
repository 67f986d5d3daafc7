import Mathlib.Data.List.Basic
import Mathlib.Data.List.DropRight
import Mathlib.Data.List.TakeWhile
import ScriptConsole.Proofs.Text.Bytes

/-!
Lines and the blanks at their ends. A text that is put together from lines falls apart into the
same lines again, and what is blank at the end of a line has no bearing on what the line says.
-/

namespace ScriptConsole.Text

/-! ### Runs of characters -/

section Runs

variable {p : Char → Bool} {run tail : List Char}

theorem takeWhile_append_of_head (htail : ∀ c ∈ tail.head?, p c = false) (s : List Char) :
    (s ++ tail).takeWhile p = s.takeWhile p := by
  induction s with
  | nil =>
      cases tail with
      | nil => rfl
      | cons c tail => exact List.takeWhile_cons_of_neg (by simp [htail c rfl])
  | cons c s ih => rw [List.cons_append, List.takeWhile_cons, List.takeWhile_cons, ih]

theorem dropWhile_append_of_head (htail : ∀ c ∈ tail.head?, p c = false) (s : List Char) :
    (s ++ tail).dropWhile p = s.dropWhile p ++ tail := by
  induction s with
  | nil =>
      cases tail with
      | nil => rfl
      | cons c tail => exact List.dropWhile_cons_of_neg (by simp [htail c rfl])
  | cons c s ih =>
      rw [List.cons_append, List.dropWhile_cons, List.dropWhile_cons, ih]
      split <;> rfl

theorem takeWhile_run (hrun : ∀ c ∈ run, p c = true) (htail : ∀ c ∈ tail.head?, p c = false) :
    (run ++ tail).takeWhile p = run ∧ (run ++ tail).dropWhile p = tail := by
  constructor
  · rw [takeWhile_append_of_head htail, List.takeWhile_eq_self_iff.mpr hrun]
  · rw [dropWhile_append_of_head htail, List.dropWhile_eq_nil_iff.mpr hrun, List.nil_append]

end Runs

/-! ### Pieces -/

section Pieces

variable {α : Type} {separator : α}

theorem splitOnP_append_flatMap {p : α → Bool} (hseparator : p separator = true)
    {piece : List α} {pieces : List (List α)}
    (hpieces : ∀ piece' ∈ piece :: pieces, ∀ c ∈ piece', p c = false) :
    (piece ++ pieces.flatMap (separator :: ·)).splitOnP p = piece :: pieces := by
  induction pieces generalizing piece with
  | nil =>
      obtain ⟨hpiece, -⟩ := List.forall_mem_cons.mp hpieces
      rw [List.flatMap_nil, List.append_nil, List.splitOnP_eq_singleton hpiece]
  | cons next pieces ih =>
      obtain ⟨hpiece, hmore⟩ := List.forall_mem_cons.mp hpieces
      rw [List.flatMap_cons, List.cons_append,
        List.splitOnP_append_cons_of_forall_mem hpiece separator hseparator, ih hmore]

theorem splitOnP_flatMap {p : α → Bool} (hseparator : p separator = true)
    {pieces : List (List α)} (hpieces : ∀ piece ∈ pieces, ∀ c ∈ piece, p c = false) :
    (pieces.flatMap (separator :: ·)).splitOnP p = [] :: pieces :=
  splitOnP_append_flatMap hseparator (List.forall_mem_cons.mpr ⟨List.forall_mem_nil _, hpieces⟩)

variable [DecidableEq α]

theorem notMem_of_mem_splitOn {s piece : List α} (h : piece ∈ s.splitOn separator) :
    separator ∉ piece := by
  induction s generalizing piece with
  | nil =>
      obtain rfl := List.mem_singleton.mp h
      exact List.not_mem_nil
  | cons c s ih =>
      rw [List.splitOn_cons_eq_if_modifyHead] at h
      split at h
      · rcases List.mem_cons.mp h with rfl | hrest
        · exact List.not_mem_nil
        · exact ih hrest
      · next hother =>
        obtain ⟨first, pieces, hpieces⟩ :=
          List.exists_cons_of_ne_nil (List.splitOn_ne_nil separator s)
        rw [hpieces, List.modifyHead_cons] at h
        rcases List.mem_cons.mp h with rfl | hrest
        · rw [List.mem_cons, not_or]
          refine ⟨fun hc => hother (by rw [hc]; exact beq_self_eq_true c), ih ?_⟩
          rw [hpieces]
          exact List.mem_cons_self
        · apply ih
          rw [hpieces]
          exact List.mem_cons_of_mem first hrest

theorem length_splitOn (separator : α) (s : List α) :
    (s.splitOn separator).length = s.count separator + 1 := by
  induction s with
  | nil => rfl
  | cons c s ih =>
      rw [List.splitOn_cons_eq_if_modifyHead, List.count_cons]
      split
      · rw [List.length_cons, ih]
      · rw [List.length_modifyHead, ih, Nat.add_zero]

theorem flatMap_splitOn (separator : α) (s : List α) :
    (s.splitOn separator).flatMap (separator :: ·) = separator :: s := by
  induction s with
  | nil => rfl
  | cons c s ih =>
      rw [List.splitOn_cons_eq_if_modifyHead]
      split
      · next hc =>
        rw [List.flatMap_cons, ih, beq_iff_eq.mp hc]
        rfl
      · obtain ⟨first, pieces, hpieces⟩ :=
          List.exists_cons_of_ne_nil (List.splitOn_ne_nil separator s)
        rw [hpieces, List.flatMap_cons, List.cons_append] at ih
        rw [hpieces, List.modifyHead_cons, List.flatMap_cons, List.cons_append, List.cons_append,
          (List.cons.inj ih).2]

end Pieces

/-! ### Blanks -/

theorem startsBlank_trimStart (s : List Char) : startsBlank (trimStart s) = false := by
  induction s with
  | nil => rfl
  | cons c s ih =>
      rw [trimStart, List.dropWhile_cons]
      split
      · exact ih
      · next hfull => exact Bool.eq_false_iff.mpr hfull

theorem allBlank_trimStart (s : List Char) : allBlank (trimStart s) = allBlank s := by
  induction s with
  | nil => rfl
  | cons c s ih =>
      rw [trimStart, List.dropWhile_cons]
      split
      · next hblank =>
        have hcons : allBlank (c :: s) = allBlank s := by
          rw [allBlank, List.all_cons, hblank, Bool.true_and, allBlank]
        exact ih.trans hcons.symm
      · rfl

theorem trimEnd_eq_nil_iff {s : List Char} : trimEnd s = [] ↔ allBlank s = true := by
  rw [trimEnd, List.reverse_eq_nil_iff, List.dropWhile_eq_nil_iff, allBlank, List.all_eq_true]
  simp only [List.mem_reverse]

theorem trim_eq_nil_iff {s : List Char} : trim s = [] ↔ allBlank s = true := by
  rw [trim, trimEnd_eq_nil_iff, allBlank_trimStart]

theorem trimEnd_append {t : List Char} (ht : allBlank t = false) (s : List Char) :
    trimEnd (s ++ t) = s ++ trimEnd t := by
  have hfull : (t.reverse.dropWhile isBlank).isEmpty = false := by
    rw [List.isEmpty_eq_false_iff]
    intro hnil
    have hall : allBlank t = true := trimEnd_eq_nil_iff.mp (List.reverse_eq_nil_iff.mpr hnil)
    rw [ht] at hall
    cases hall
  rw [trimEnd, List.reverse_append, List.dropWhile_append, hfull, if_neg Bool.false_ne_true,
    List.reverse_append, List.reverse_reverse, trimEnd]

theorem trimStart_append {s : List Char} (hs : allBlank s = false) (t : List Char) :
    trimStart (s ++ t) = trimStart s ++ t := by
  have hfull : (s.dropWhile isBlank).isEmpty = false := by
    rw [List.isEmpty_eq_false_iff]
    intro hnil
    have hall := allBlank_trimStart s
    rw [trimStart, hnil, hs] at hall
    cases hall
  rw [trimStart, List.dropWhile_append, hfull, if_neg Bool.false_ne_true, trimStart]

theorem trimEnd_eq_indented {s : List Char} (h : allBlank s = false) :
    trimEnd s = s.takeWhile isBlank ++ trim s := by
  have hstart : allBlank (trimStart s) = false := (allBlank_trimStart s).trans h
  calc
    trimEnd s = trimEnd (s.takeWhile isBlank ++ trimStart s) := by
      rw [trimStart, List.takeWhile_append_dropWhile]
    _ = s.takeWhile isBlank ++ trim s := trimEnd_append hstart _

theorem getLast?_trimEnd {s : List Char} (h : allBlank s = false) :
    (trimEnd s).getLast? = (trim s).getLast? := by
  have hfull : trim s ≠ [] := by
    intro hnil
    rw [trim_eq_nil_iff.mp hnil] at h
    cases h
  rw [trimEnd_eq_indented h, List.getLast?_append, List.getLast?_eq_some_getLast hfull,
    Option.some_or]

theorem getLast_trimEnd_full {s : List Char} {c : Char} (hlast : (trimEnd s).getLast? = some c) :
    isBlank c = false := by
  rw [trimEnd, List.getLast?_reverse] at hlast
  have hhead := List.head?_dropWhile_not isBlank s.reverse
  rw [hlast] at hhead
  simpa using hhead

theorem startsBlank_append {s : List Char} (hs : s ≠ []) (t : List Char) :
    startsBlank (s ++ t) = startsBlank s := by
  cases s with
  | nil => exact absurd rfl hs
  | cons c s => rfl

theorem exists_trimEnd_append (s : List Char) :
    ∃ tail, s = trimEnd s ++ tail ∧ allBlank tail = true := by
  refine ⟨(s.reverse.takeWhile isBlank).reverse, ?_, ?_⟩
  · rw [trimEnd, ← List.reverse_append, List.takeWhile_append_dropWhile, List.reverse_reverse]
  · rw [allBlank, List.all_reverse]
    exact List.all_takeWhile

theorem startsBlank_trimEnd {s : List Char} (h : allBlank s = false) :
    startsBlank (trimEnd s) = startsBlank s := by
  obtain ⟨tail, hs, -⟩ := exists_trimEnd_append s
  have hfull : trimEnd s ≠ [] := by
    intro hnil
    rw [trimEnd_eq_nil_iff.mp hnil] at h
    cases h
  conv_rhs => rw [hs, startsBlank_append hfull]

theorem trimStart_eq_self {s : List Char} (h : startsBlank s = false) : trimStart s = s := by
  cases s with
  | nil => rfl
  | cons c s => exact List.dropWhile_cons_of_neg (Bool.eq_false_iff.mp h)

theorem exists_trim_append {s : List Char} (h : startsBlank s = false) :
    ∃ gap, s = trim s ++ gap := by
  obtain ⟨gap, hs, -⟩ := exists_trimEnd_append s
  refine ⟨gap, ?_⟩
  rwa [trim, trimStart_eq_self h]

theorem trim_trim (s : List Char) : trim (trim s) = trim s := by
  cases hblank : allBlank s with
  | true => rw [trim_eq_nil_iff.mpr hblank]; rfl
  | false =>
      have hfull : allBlank (trimStart s) = false := (allBlank_trimStart s).trans hblank
      have hstart : trimStart (trim s) = trim s := by
        apply trimStart_eq_self
        rw [trim, startsBlank_trimEnd hfull, startsBlank_trimStart]
      conv_lhs => rw [trim, hstart, trim]
      rw [trimEnd, trimEnd, List.reverse_reverse, List.dropWhile_idempotent, trim, trimEnd]

theorem trim_blank_append {before : List Char} (hbefore : allBlank before = true)
    (s : List Char) : trim (before ++ s) = trim s := by
  rw [trim, trimStart, List.dropWhile_append_of_pos (List.all_eq_true.mp hbefore), trim, trimStart]

theorem trim_eq_self {s : List Char} (hstart : startsBlank s = false)
    (hend : ∀ c ∈ s.getLast?, isBlank c = false) : trim s = s := by
  rw [trim, trimStart_eq_self hstart, trimEnd, List.reverse_eq_iff]
  rw [List.getLast?_eq_head?_reverse] at hend
  cases hreverse : s.reverse with
  | nil => rfl
  | cons c rest =>
      rw [hreverse] at hend
      exact List.dropWhile_cons_of_neg (Bool.eq_false_iff.mp (hend c rfl))

/-! ### Ends of lines -/

theorem exists_dropLineEnd_append (s : List Char) :
    ∃ tail, s = dropLineEnd s ++ tail ∧ allBlank tail = true := by
  refine ⟨(s.reverse.takeWhile fun c => c == '\r' || c == '\n').reverse, ?_, ?_⟩
  · rw [dropLineEnd, ← List.reverse_append, List.takeWhile_append_dropWhile, List.reverse_reverse]
  · rw [allBlank, List.all_reverse, List.all_eq_true]
    intro c hc
    have hend := List.mem_takeWhile_imp hc
    simp only [Bool.or_eq_true, beq_iff_eq] at hend
    rcases hend with rfl | rfl <;> rfl

theorem dropLineEnd_eq_self {s : List Char}
    (h : ∀ c, s.getLast? = some c → c ≠ '\r' ∧ c ≠ '\n') : dropLineEnd s = s := by
  rw [List.getLast?_eq_head?_reverse] at h
  rw [dropLineEnd, List.reverse_eq_iff]
  cases hreverse : s.reverse with
  | nil => rfl
  | cons c rest =>
      rw [hreverse] at h
      obtain ⟨hreturn, hnewline⟩ := h c rfl
      rw [List.dropWhile_cons, if_neg (by simp [hreturn, hnewline])]

theorem trim_dropLineEnd (s : List Char) : trim (dropLineEnd s) = trim s := by
  obtain ⟨tail, hs, htail⟩ := exists_dropLineEnd_append s
  conv_rhs => rw [hs, trim_append_blank _ htail]

theorem allBlank_dropLineEnd (s : List Char) : allBlank (dropLineEnd s) = allBlank s := by
  obtain ⟨tail, hs, htail⟩ := exists_dropLineEnd_append s
  conv_rhs => rw [hs, allBlank, List.all_append, ← allBlank, ← allBlank, htail, Bool.and_true]

theorem startsBlank_dropLineEnd {s : List Char} (h : allBlank s = false) :
    startsBlank (dropLineEnd s) = startsBlank s := by
  obtain ⟨tail, hs, htail⟩ := exists_dropLineEnd_append s
  have hfull : dropLineEnd s ≠ [] := by
    intro hnil
    rw [hs, hnil, List.nil_append, htail] at h
    cases h
  conv_rhs => rw [hs, startsBlank_append hfull]

theorem notMem_dropLineEnd {c : Char} {s : List Char} (h : c ∉ s) : c ∉ dropLineEnd s := by
  obtain ⟨tail, hs, -⟩ := exists_dropLineEnd_append s
  intro hmem
  exact h (hs ▸ List.mem_append_left tail hmem)

theorem dropReturn_dropLineEnd (s : List Char) : dropReturn (dropLineEnd s) = dropLineEnd s := by
  rw [dropReturn, if_neg]
  intro hlast
  rw [dropLineEnd, List.getLast?_reverse] at hlast
  have hhead := List.head?_dropWhile_not (fun c => c == '\r' || c == '\n') s.reverse
  rw [hlast] at hhead
  cases hhead

/-! ### Texts made of lines -/

theorem lines_cons {line : List Char} (hline : '\n' ∉ line) (rest : List Char) :
    lines (line ++ '\n' :: rest) = dropReturn line :: lines rest := by
  obtain ⟨piece, pieces, hpieces⟩ := List.exists_cons_of_ne_nil (List.splitOn_ne_nil '\n' rest)
  rw [lines, lines, List.splitOn_append_cons_self_of_not_mem hline, hpieces]
  simp

theorem lines_nil : lines [] = [] := rfl

theorem lines_last {line : List Char} (hline : '\n' ∉ line) (hfull : line ≠ []) :
    lines line = [line] := by
  rw [lines, List.splitOn_eq_singleton hline]
  simp [hfull]

/-- The text that consists of these lines. -/
def ofLines (ls : List (List Char)) : List Char :=
  (ls.map (· ++ ['\n'])).flatten

theorem ofLines_append (ls more : List (List Char)) :
    ofLines (ls ++ more) = ofLines ls ++ ofLines more := by
  rw [ofLines, List.map_append, List.flatten_append, ofLines, ofLines]

theorem ofLines_singleton (line : List Char) : ofLines [line] = line ++ ['\n'] :=
  List.append_nil _

theorem ofLines_cons (line : List Char) (ls : List (List Char)) :
    ofLines (line :: ls) = line ++ '\n' :: ofLines ls := by
  rw [← List.singleton_append, ofLines_append, ofLines_singleton, List.append_assoc,
    List.singleton_append]

theorem ofLines_concat (ls : List (List Char)) (line : List Char) :
    ofLines (ls ++ [line]) = ofLines ls ++ line ++ ['\n'] := by
  rw [ofLines_append, ofLines_singleton, List.append_assoc]

theorem lines_ofLines_append {ls : List (List Char)} (hls : ∀ line ∈ ls, '\n' ∉ line)
    (rest : List Char) : lines (ofLines ls ++ rest) = ls.map dropReturn ++ lines rest := by
  induction ls with
  | nil => rfl
  | cons line ls ih =>
      obtain ⟨hline, hmore⟩ := List.forall_mem_cons.mp hls
      rw [ofLines_cons, List.append_assoc, List.cons_append, lines_cons hline, ih hmore,
        List.map_cons, List.cons_append]

theorem lines_ofLines {ls : List (List Char)} (hls : ∀ line ∈ ls, '\n' ∉ line) :
    lines (ofLines ls) = ls.map dropReturn := by
  have h := lines_ofLines_append hls []
  rwa [List.append_nil, lines_nil, List.append_nil] at h

theorem newline_notMem_of_mem_lines {s line : List Char} (h : line ∈ lines s) : '\n' ∉ line := by
  rw [lines] at h
  rcases List.mem_append.mp h with hended | hlast
  · obtain ⟨piece, hpiece, rfl⟩ := List.mem_map.mp hended
    have hnone := notMem_of_mem_splitOn ((List.dropLast_sublist _).mem hpiece)
    rcases dropReturn_or piece with hsame | hreturn
    · rwa [hsame]
    · intro hmem
      apply hnone
      rw [hreturn]
      exact List.mem_append_left _ hmem
  · split at hlast
    · cases hlast
    · obtain rfl := List.mem_singleton.mp hlast
      apply notMem_of_mem_splitOn (s := s)
      rw [List.getLastD_eq_getLast?, List.getLast?_eq_some_getLast (List.splitOn_ne_nil '\n' s)]
      exact List.getLast_mem _

end ScriptConsole.Text
