import ScriptConsole.Proofs.Statement.Closing

/-!
Statements that are recalled. The history keeps a statement without its outer blanks; typed again
as one line, it is complete at once or after one empty line, and the history gets the same entry.
-/

namespace ScriptConsole

open Text

/-- A text without outer blanks that says something. -/
structure Text.IsTrimmed (s : List Char) : Prop where
  full : allBlank s = false
  same : trim s = s

namespace Text.IsTrimmed

variable {s : List Char}

theorem of_full (hfull : allBlank s = false) : IsTrimmed (trim s) where
  full := by
    rw [← Bool.not_eq_true, ← trim_eq_nil_iff, trim_trim, trim_eq_nil_iff, hfull]
    exact Bool.false_ne_true
  same := trim_trim s

theorem last_full (h : IsTrimmed s) {c : Char} (hlast : s.getLast? = some c) :
    isBlank c = false := by
  rw [← h.same] at hlast
  exact getLast_trimEnd_full hlast

theorem dropLineEnd_eq (h : IsTrimmed s) : dropLineEnd s = s := by
  apply dropLineEnd_eq_self
  intro c hlast
  constructor
  · rintro rfl
    cases h.last_full hlast
  · rintro rfl
    cases h.last_full hlast

end Text.IsTrimmed

namespace Statement

variable {source : List Char}

theorem lastLine_trim_append (source : List Char) {blanks : List Char}
    (hblanks : allBlank blanks = true) :
    lastLine (trim source ++ blanks) = lastLine source := by
  rw [lastLine, trim_append_blank _ hblanks, trim_trim, lastLine]

theorem isIncomplete_of_lastLine {other : List Char} (hlast : lastLine other = lastLine source)
    (hcomplete : isIncomplete source = false) :
    isIncomplete other = true ↔
      startsBlank (lastLine source) = true ∧ endsWithEmptyLine other = false := by
  rw [isIncomplete] at hcomplete ⊢
  simp only [hlast]
  split at hcomplete
  · cases hcomplete
  · next hheader =>
    rw [if_neg hheader]
    split
    · next hblank => rw [Bool.not_eq_true', and_iff_right hblank]
    · next hflush => exact iff_of_false Bool.false_ne_true fun h => hflush h.1

theorem endsWithEmptyLine_concat (h : IsTrimmed source) :
    endsWithEmptyLine (source ++ ['\n']) = false := by
  rw [endsWithEmptyLine, before?, List.isSome_isSuffixOf?_eq_isSuffixOf, ← Bool.not_eq_true,
    List.isSuffixOf_iff_suffix]
  intro hsuffix
  obtain hnil | ⟨start, hstart, hbefore⟩ := List.suffix_concat_iff.mp hsuffix
  · cases hnil
  obtain rfl : ['\n'] = start := (List.append_inj' hstart rfl).1
  obtain ⟨front, rfl⟩ := hbefore
  cases h.last_full List.getLast?_concat

theorem endsWithEmptyLine_two (source : List Char) :
    endsWithEmptyLine (source ++ ['\n', '\n']) = true := by
  rw [endsWithEmptyLine, before?, List.isSome_isSuffixOf?_eq_isSuffixOf,
    List.isSuffixOf_iff_suffix]
  exact List.suffix_append source _

end Statement

namespace StatementBuffer

variable {b : StatementBuffer} {IsTyped : String → Prop}

theorem Reaches.given (hreach : Reaches IsTyped b) {line source : String}
    (hpush : (b.push line).1 = .statement source) :
    allBlank source.toList = false ∧ Statement.isIncomplete source.toList = false := by
  cases hfree : b.awaitingInput with
  | true =>
      rw [StatementBuffer.push, hfree] at hpush
      cases hpush
  | false =>
      obtain ⟨typed, rfl, hwaits⟩ := hreach.exists_holding hfree
      obtain ⟨outcome, left, houtcome, hpushes⟩ := exists_pushes typed line
      rw [houtcome] at hpush
      cases hpushes with
      | ignored => cases hpush
      | incomplete => cases hpush
      | statement hbegun hcomplete =>
          obtain rfl := LineOutcome.statement.inj hpush
          rw [String.toList_ofList]
          refine ⟨?_, hcomplete⟩
          obtain ⟨first, rest, hsplit⟩ := List.exists_cons_of_ne_nil
            (List.append_ne_nil_of_right_ne_nil typed (List.cons_ne_nil (dropLineEnd line.toList) []))
          have hfirst := hwaits.full_concat hbegun
          rw [hsplit] at hfirst ⊢
          rw [ofLines_cons, allBlank, List.all_append, ← allBlank, hfirst first rfl,
            Bool.false_and]

variable {entry : List Char}

theorem push_trimmed (h : IsTrimmed entry) : empty.push (String.ofList entry) =
    if Statement.isIncomplete (entry ++ ['\n']) then (.incomplete, holding [entry])
    else (.statement (String.ofList (entry ++ ['\n'])), empty) := by
  have hpush := @push_holding [] entry (.inr h.full)
  rwa [h.dropLineEnd_eq, List.nil_append, ofLines_singleton] at hpush

theorem push_behind (entry : List Char) : (holding [entry]).push "" =
    if Statement.isIncomplete (entry ++ ['\n', '\n']) then (.incomplete, holding [entry, []])
    else (.statement (String.ofList (entry ++ ['\n', '\n'])), empty) := by
  have hpush := @push_holding [entry] [] (.inl (List.cons_ne_nil entry []))
  rwa [List.singleton_append, ofLines_cons] at hpush

/-- A recalled statement can be submitted again. Typed as one line on a new buffer, what the
history keeps of it is a complete statement, or it is one together with an empty line; and the
history keeps the same of that. -/
theorem recalled_statement_completes (hreach : Reaches IsTyped b) {line source : String}
    (hpush : (b.push line).1 = .statement source) :
    let entry := String.ofList (trim source.toList)
    (∃ again, empty.push entry = (.statement again, empty) ∧
      String.ofList (trim again.toList) = entry) ∨
    ∃ rest again, empty.push entry = (.incomplete, rest) ∧
      rest.push "" = (.statement again, empty) ∧ String.ofList (trim again.toList) = entry := by
  intro entry
  obtain ⟨hfull, hcomplete⟩ := hreach.given hpush
  have htrimmed := IsTrimmed.of_full hfull
  have hsame (blanks : List Char) (hblanks : allBlank blanks = true) :
      String.ofList (trim (String.ofList (trim source.toList ++ blanks)).toList) = entry := by
    rw [String.toList_ofList, trim_append_blank _ hblanks, trim_trim]
  have hnewline : allBlank ['\n'] = true := rfl
  have hempty : allBlank ['\n', '\n'] = true := rfl
  have hone := Statement.isIncomplete_of_lastLine
    (Statement.lastLine_trim_append source.toList hnewline) hcomplete
  have htwo := Statement.isIncomplete_of_lastLine
    (Statement.lastLine_trim_append source.toList hempty) hcomplete
  rw [Statement.endsWithEmptyLine_concat htrimmed, and_iff_left rfl] at hone
  rw [Statement.endsWithEmptyLine_two] at htwo
  by_cases hindented : startsBlank (Statement.lastLine source.toList) = true
  · refine .inr ⟨holding [trim source.toList], _, ?_, ?_, hsame _ hempty⟩
    · rw [push_trimmed htrimmed, if_pos (hone.mpr hindented)]
    · rw [push_behind, if_neg fun h => Bool.noConfusion (htwo.mp h).2]
  · refine .inl ⟨_, ?_, hsame _ hnewline⟩
    rw [push_trimmed htrimmed, if_neg fun h => hindented (hone.mp h)]

theorem recalled_statement_completes_of_block :
    Reaches (fun _ => True) (holding ["if x:".toList, "  y".toList]) ∧
    ((holding ["if x:".toList, "  y".toList]).push "").1 = .statement "if x:\n  y\n\n" ∧
    ∃ rest again, empty.push "if x:\n  y" = (.incomplete, rest) ∧
      rest.push "" = (.statement again, empty) ∧
      String.ofList (trim again.toList) = "if x:\n  y" := by
  have hreach : Reaches (fun _ => True) (holding ["if x:".toList, "  y".toList]) := by
    have htyped : ((empty.push "if x:").2.push "  y").2 =
        holding ["if x:".toList, "  y".toList] := by decide +kernel
    exact htyped ▸ .push (.push .empty trivial) trivial
  have hgiven : ((holding ["if x:".toList, "  y".toList]).push "").1 =
      .statement "if x:\n  y\n\n" := by decide +kernel
  have hentry : String.ofList (trim "if x:\n  y\n\n".toList) = "if x:\n  y" := by
    decide +kernel
  refine ⟨hreach, hgiven, ?_⟩
  have hrecalled := recalled_statement_completes hreach hgiven
  simp only [hentry] at hrecalled
  refine hrecalled.resolve_left ?_
  rintro ⟨again, hpush, -⟩
  have hopen : (empty.push "if x:\n  y").1 = .incomplete := by decide +kernel
  rw [hpush] at hopen
  cases hopen

end StatementBuffer
end ScriptConsole
