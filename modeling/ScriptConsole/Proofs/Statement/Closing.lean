import ScriptConsole.Proofs.Statement.Gathering

/-!
Which line closes a statement. The last line that says something decides: a header leaves the
statement open, the first line and a line without indentation close it, and behind an indented
line the next empty one does.
-/

namespace ScriptConsole

open Text

theorem Text.exists_last_full {ls : List (List Char)} (h : ∃ line ∈ ls, allBlank line = false) :
    ∃ front last blanks, ls = front ++ last :: blanks ∧ allBlank last = false ∧
      ∀ line ∈ blanks, allBlank line = true := by
  induction ls with
  | nil =>
      obtain ⟨line, hline, -⟩ := h
      cases hline
  | cons first ls ih =>
      by_cases hmore : ∃ line ∈ ls, allBlank line = false
      · obtain ⟨front, last, blanks, rfl, hlast, hblanks⟩ := ih hmore
        exact ⟨first :: front, last, blanks, rfl, hlast, hblanks⟩
      · have hblanks : ∀ line ∈ ls, allBlank line = true := by
          intro line hline
          by_contra hfull
          exact hmore ⟨line, hline, Bool.eq_false_iff.mpr hfull⟩
        obtain ⟨line, hline, hfull⟩ := h
        rcases List.mem_cons.mp hline with rfl | hother
        · exact ⟨[], line, ls, rfl, hfull, hblanks⟩
        · exact absurd ⟨line, hother, hfull⟩ hmore

namespace StatementBuffer

variable {b : StatementBuffer} {IsTyped : String → Prop}

/-! ### Buffers in use -/

/-- The buffers that come of typed lines, with answers awaited in between or not. A buffer that is
cleared is a new one. -/
inductive Reaches (IsTyped : String → Prop) : StatementBuffer → Prop where
  | empty : Reaches IsTyped empty
  | push {b : StatementBuffer} {line : String} (h : Reaches IsTyped b) (hline : IsTyped line) :
      Reaches IsTyped (b.push line).2
  | setAwaitingInput {b : StatementBuffer} (h : Reaches IsTyped b) (awaiting : Bool) :
      Reaches IsTyped (b.setAwaitingInput awaiting)

theorem Reaches.exists_waits (h : Reaches IsTyped b) : ∃ typed awaiting,
    b = (holding typed).setAwaitingInput awaiting ∧ Waits IsTyped typed := by
  induction h with
  | empty => exact ⟨[], false, rfl, waits_nil⟩
  | @push b line _ hline ih =>
      obtain ⟨typed, awaiting, rfl, hwaits⟩ := ih
      cases awaiting with
      | true => exact ⟨[], false, rfl, waits_nil⟩
      | false =>
          obtain ⟨outcome, left, hpush, hpushes⟩ := exists_pushes typed line
          have hleft : (((holding typed).setAwaitingInput false).push line).2 = holding left :=
            congrArg Prod.snd hpush
          exact ⟨left, false, hleft, hpushes.waits hwaits hline⟩
  | setAwaitingInput _ awaiting ih =>
      obtain ⟨typed, -, rfl, hwaits⟩ := ih
      exact ⟨typed, awaiting, rfl, hwaits⟩

theorem Reaches.exists_holding (h : Reaches IsTyped b) (hfree : b.awaitingInput = false) :
    ∃ typed, b = holding typed ∧ Waits IsTyped typed := by
  obtain ⟨typed, awaiting, rfl, hwaits⟩ := h.exists_waits
  obtain rfl : awaiting = false := hfree
  exact ⟨typed, rfl, hwaits⟩

/-! ### The line that decides -/

/-- The typed line is one line. -/
def IsOneLine (line : String) : Prop :=
  '\n' ∉ dropLineEnd line.toList

instance : DecidablePred IsOneLine :=
  fun line => inferInstanceAs (Decidable ('\n' ∉ dropLineEnd line.toList))

/-- With `line` at its end a statement is complete, if `last` is its last line that says something
and `front` stands before that. -/
def Closes (front : List (List Char)) (last line : List Char) : Prop :=
  (trimEnd last).getLast? ≠ some ':' ∧ (front = [] ∨ startsBlank last = false ∨ line = [])

variable {typed front blanks : List (List Char)} {last line : List Char}

theorem isIncomplete_iff_not_closes (htyped : ∀ other ∈ typed, '\n' ∉ other)
    (hfirst : ∀ first ∈ typed.head?, allBlank first = false) (hend : typed.getLast? = some line)
    (hsplit : typed = front ++ last :: blanks) (hlast : allBlank last = false)
    (hblanks : ∀ blank ∈ blanks, allBlank blank = true) :
    Statement.isIncomplete (ofLines typed) = true ↔ ¬ Closes front last line := by
  subst hsplit
  obtain ⟨hfront, hmore⟩ := List.forall_mem_append.mp htyped
  obtain ⟨hdeciding, hmore⟩ := List.forall_mem_cons.mp hmore
  have hhead : ∀ first ∈ front.head?, allBlank first = false := by
    intro first hmem
    apply hfirst
    rw [List.head?_append, hmem]
    rfl
  have hwaits := Statement.isIncomplete_ofLines hfront hhead ⟨hlast, hdeciding⟩
    fun blank hblank => ⟨hblanks blank hblank, hmore blank hblank⟩
  rw [List.getLast?_append_of_ne_nil _ (List.cons_ne_nil _ _)] at hend
  rw [hwaits, hend, Closes, getLast?_trimEnd hlast, ne_eq (some line), Option.some.injEq,
    not_and_or, not_not, not_or, not_or, Bool.not_eq_false]

theorem Waits.newline_notMem (h : Waits IsOneLine typed) : ∀ line ∈ typed, '\n' ∉ line := by
  intro line hline
  obtain ⟨raw, hraw, rfl⟩ := h.lines line hline
  exact hraw

theorem Waits.not_closes (h : Waits IsOneLine typed) (hsome : typed ≠ [])
    (hblank : allBlank line = true) (hline : line ≠ [])
    (hsplit : typed ++ [line] = front ++ last :: blanks) (hlast : allBlank last = false)
    (hblanks : ∀ blank ∈ blanks, allBlank blank = true) : ¬ Closes front last line := by
  rcases List.eq_nil_or_concat blanks with rfl | ⟨others, other, rfl⟩
  · obtain ⟨-, hsame⟩ := List.append_inj' hsplit rfl
    rw [List.singleton_inj.mp hsame, hlast] at hblank
    cases hblank
  · rw [List.concat_eq_append] at hsplit hblanks
    rw [← List.cons_append, ← List.append_assoc] at hsplit
    obtain ⟨hbefore, -⟩ := List.append_inj' hsplit rfl
    -- The line that decides was there before, when the statement was not complete.
    have hopen := (isIncomplete_iff_not_closes h.newline_notMem h.full
      (List.getLast?_eq_some_getLast hsome) hbefore hlast
      (List.forall_mem_append.mp hblanks).1).mp (h.incomplete hsome)
    rintro ⟨hheader, hcloses⟩
    apply hopen
    refine ⟨hheader, ?_⟩
    rcases hcloses with hnone | hflush | hempty
    · exact .inl hnone
    · exact .inr (.inl hflush)
    · exact absurd hempty hline

/-- When a statement is complete. Whatever was typed before, one line at a time, a line that is not
ignored completes the statement just if the last line that says something is no header and is the
first line, or is not indented, or the new line is empty; otherwise the statement waits for more
lines. So the indentation of a first line does not matter, and a line of blanks never closes a
block. -/
theorem completion_decided_by_last_line {line : String} (hreach : Reaches IsOneLine b)
    (hfree : b.awaitingInput = false) (hline : IsOneLine line)
    (hbegun : b.isEmpty = false ∨ allBlank line.toList = false) :
    ∃ front last blanks,
      b.lines ++ [endedLine line] = (front ++ last :: blanks).map (· ++ ['\n']) ∧
      (∀ first ∈ front.head?, allBlank first = false) ∧
      allBlank last = false ∧ (∀ blank ∈ blanks, allBlank blank = true) ∧
      ((b.push line).1 = .statement (String.ofList (b.pending ++ endedLine line)) ↔
        Closes front last (dropLineEnd line.toList)) ∧
      ((b.push line).1 = .incomplete ↔ ¬ Closes front last (dropLineEnd line.toList)) ∧
      (b.isEmpty = true → ((b.push line).1 = .incomplete ↔
        (trim line.toList).getLast? = some ':')) ∧
      (b.isEmpty = false → allBlank line.toList = true → dropLineEnd line.toList ≠ [] →
        (b.push line).1 = .incomplete) := by
  obtain ⟨typed, rfl, hwaits⟩ := hreach.exists_holding hfree
  rw [← Bool.not_eq_true, isEmpty_holding]
  rw [← Bool.not_eq_true, isEmpty_holding, ← allBlank_dropLineEnd] at hbegun
  obtain ⟨outcome, left, hpush, hpushes⟩ := exists_pushes typed line
  have hlines : ∀ other ∈ typed ++ [dropLineEnd line.toList], '\n' ∉ other :=
    List.forall_mem_append.mpr ⟨hwaits.newline_notMem, List.forall_mem_singleton.mpr hline⟩
  have hfirst := hwaits.full_concat hbegun
  -- The first line says something, so there is a last one that does.
  have hfull : ∃ other ∈ typed ++ [dropLineEnd line.toList], allBlank other = false := by
    obtain ⟨first, hmem⟩ := Option.isSome_iff_exists.mp (List.isSome_head?.mpr
      (List.append_ne_nil_of_right_ne_nil typed (List.cons_ne_nil (dropLineEnd line.toList) [])))
    exact ⟨first, List.mem_of_mem_head? hmem, hfirst first hmem⟩
  obtain ⟨front, last, blanks, hsplit, hlast, hblanks⟩ := exists_last_full hfull
  have hwaitsIff :=
    isIncomplete_iff_not_closes hlines hfirst List.getLast?_concat hsplit hlast hblanks
  have htext : (holding typed).pending ++ endedLine line =
      ofLines (typed ++ [dropLineEnd line.toList]) := by
    rw [ofLines_append, ofLines_singleton]
    rfl
  have hincomplete := (hpushes.incomplete_iff hbegun).trans hwaitsIff
  rw [hpush, htext]
  refine ⟨front, last, blanks, ?_, ?_, hlast, hblanks, ?_, hincomplete, ?_, ?_⟩
  · rw [← hsplit, List.map_append]
    rfl
  · intro first hmem
    apply hfirst
    rw [hsplit, List.head?_append, hmem]
    rfl
  · rw [hpushes.statement_iff hbegun, ← Bool.not_eq_true, hwaitsIff, not_not]
  · rintro rfl
    obtain ⟨rfl, hsame⟩ | ⟨-, hnil⟩ := List.append_eq_singleton_iff.mp hsplit.symm
    · obtain ⟨rfl, -⟩ := List.cons.inj hsame
      rw [hincomplete, Closes, getLast?_trimEnd hlast, trim_dropLineEnd, not_and_or, not_not]
      exact or_iff_left fun h => h (.inl rfl)
    · cases hnil
  · intro hsome hblank hnonempty
    rw [← allBlank_dropLineEnd] at hblank
    exact hincomplete.mpr (hwaits.not_closes hsome hblank hnonempty hsplit hlast hblanks)

theorem completion_decided_by_last_line_of_block :
    Reaches IsOneLine (holding ["if x:".toList, "  y".toList]) ∧
    (holding ["if x:".toList, "  y".toList]).awaitingInput = false ∧
    IsOneLine "" ∧ IsOneLine " " ∧
    (holding ["if x:".toList, "  y".toList]).isEmpty = false ∧
    ((holding ["if x:".toList, "  y".toList]).push " ").1 = .incomplete ∧
    ((holding ["if x:".toList, "  y".toList]).push "").1 = .statement "if x:\n  y\n\n" := by
  have hheader : Reaches IsOneLine (holding ["if x:".toList]) := by
    have hpush : (empty.push "if x:").2 = holding ["if x:".toList] := by decide +kernel
    exact hpush ▸ .push .empty (by decide +kernel)
  have hreach : Reaches IsOneLine (holding ["if x:".toList, "  y".toList]) := by
    have hpush : ((holding ["if x:".toList]).push "  y\r\n").2 =
        holding ["if x:".toList, "  y".toList] := by decide +kernel
    exact hpush ▸ .push hheader (by decide +kernel)
  have hempty : IsOneLine "" := List.not_mem_nil
  have hblank : IsOneLine " " := by decide +kernel
  obtain ⟨-, -, -, -, -, -, -, -, -, -, hkept⟩ :=
    completion_decided_by_last_line hreach rfl hblank (.inl rfl)
  obtain ⟨front, last, blanks, hsplit, -, hlast, hblanks, hgiven, -⟩ :=
    completion_decided_by_last_line hreach rfl hempty (.inl rfl)
  refine ⟨hreach, rfl, hempty, hblank, rfl, hkept rfl rfl (by decide +kernel), ?_⟩
  have hlines : ["if x:".toList, "  y".toList, []] = front ++ last :: blanks :=
    List.map_injective_iff.mpr (List.append_left_injective ['\n']) hsplit
  have hcloses : Closes front last (dropLineEnd "".toList) := by
    rcases front with _ | ⟨first, _ | ⟨second, _ | ⟨third, front⟩⟩⟩
    · obtain ⟨rfl, rfl⟩ := List.cons.inj hlines
      exact absurd (hblanks "  y".toList List.mem_cons_self) (by decide +kernel)
    · obtain ⟨rfl, htail⟩ := List.cons.inj hlines
      obtain ⟨rfl, rfl⟩ := List.cons.inj htail
      exact ⟨by decide +kernel, .inr (.inr rfl)⟩
    · cases hlines
      cases hlast
    · have hlength := congrArg List.length hlines
      simp at hlength
  exact (hgiven.mpr hcloses).trans (congrArg LineOutcome.statement (by decide +kernel))

end StatementBuffer
end ScriptConsole
