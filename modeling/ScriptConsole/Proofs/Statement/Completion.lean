import ScriptConsole.Proofs.Text.Lines
import ScriptConsole.Statement

/-!
When typed lines make up a statement. What matters is the last line that says something: a header
waits for its block, an indented line is followed by more unless an empty line closes the block,
and any other line completes the statement.
-/

namespace ScriptConsole

open Text

/-- The line says something. -/
def Text.IsFull (line : List Char) : Prop :=
  allBlank line = false ∧ '\n' ∉ line

theorem Text.IsFull.dropLineEnd {line : List Char} (h : IsFull line) :
    IsFull (dropLineEnd line) := by
  constructor
  · exact (allBlank_dropLineEnd line).trans h.1
  · exact notMem_dropLineEnd h.2

theorem Text.IsFull.ne_nil {line : List Char} (h : IsFull line) : line ≠ [] := by
  rintro rfl
  cases h.1

theorem Text.IsFull.trim_ne_nil {line : List Char} (h : IsFull line) : trim line ≠ [] := by
  intro hnil
  have hblank := trim_eq_nil_iff.mp hnil
  rw [h.1] at hblank
  cases hblank

namespace Statement

variable {front blanks : List (List Char)} {last : List Char}

theorem allBlank_ofLines (hblanks : ∀ line ∈ blanks, allBlank line = true) :
    allBlank (ofLines blanks) = true := by
  rw [allBlank, List.all_eq_true]
  intro c hc
  obtain ⟨line, hline, hmem⟩ := List.mem_flatten.mp hc
  obtain ⟨line, hmem', rfl⟩ := List.mem_map.mp hline
  rcases List.mem_append.mp hmem with hin | hend
  · exact List.all_eq_true.mp (hblanks line hmem') c hin
  · obtain rfl := List.mem_singleton.mp hend
    rfl

theorem newline_notMem_trimEnd {line : List Char} (h : '\n' ∉ line) : '\n' ∉ trimEnd line := by
  obtain ⟨tail, hline, -⟩ := exists_trimEnd_append line
  intro hmem
  exact h (hline ▸ List.mem_append_left tail hmem)

theorem newline_notMem_trimStart {line : List Char} (h : '\n' ∉ line) : '\n' ∉ trimStart line :=
  fun hmem => h ((List.dropWhile_sublist _).mem hmem)

/-- The last line that says something, without what is blank behind it. Only a first line loses
its indentation. -/
theorem lastLine_ofLines (hfront : ∀ line ∈ front, '\n' ∉ line)
    (hfirst : ∀ first ∈ front.head?, allBlank first = false) (hlast : IsFull last)
    (hblanks : ∀ line ∈ blanks, allBlank line = true) :
    lastLine (ofLines (front ++ last :: blanks)) =
      if front = [] then trim last else trimEnd last := by
  have htail : allBlank ('\n' :: ofLines blanks) = true := by
    rw [allBlank, List.all_cons, Bool.and_eq_true]
    exact ⟨rfl, allBlank_ofLines hblanks⟩
  have hend : trimEnd last ≠ [] := by
    intro hnil
    have hblank := trimEnd_eq_nil_iff.mp hnil
    rw [hlast.1] at hblank
    cases hblank
  rw [lastLine, ofLines_append, ofLines_cons, ← List.append_assoc, trim_append_blank _ htail]
  cases front with
  | nil =>
      have hnone : '\n' ∉ trim last := newline_notMem_trimEnd (newline_notMem_trimStart hlast.2)
      rw [if_pos rfl]
      show (lines (trim last)).getLastD [] = trim last
      rw [lines_last hnone hlast.trim_ne_nil]
      rfl
  | cons first front =>
      obtain ⟨hnone, hmore⟩ := List.forall_mem_cons.mp hfront
      have hkept : ∀ line ∈ trimStart first :: front, '\n' ∉ line :=
        List.forall_mem_cons.mpr ⟨newline_notMem_trimStart hnone, hmore⟩
      have hstart : trimStart (ofLines (first :: front) ++ last) =
          ofLines (trimStart first :: front) ++ last := by
        rw [ofLines_cons, List.append_assoc, trimStart_append (hfirst first rfl), ofLines_cons,
          List.append_assoc]
      rw [if_neg (List.cons_ne_nil _ _), trim, hstart, trimEnd_append hlast.1,
        lines_ofLines_append hkept, lines_last (newline_notMem_trimEnd hlast.2) hend,
        List.getLastD_concat]

theorem endsWithEmptyLine_ofLines {typed : List (List Char)} {line : List Char}
    (htyped : typed ≠ []) (hline : '\n' ∉ line) :
    endsWithEmptyLine (ofLines (typed ++ [line])) = true ↔ line = [] := by
  rw [endsWithEmptyLine, before?, List.isSome_isSuffixOf?_eq_isSuffixOf,
    List.isSuffixOf_iff_suffix, ofLines_concat]
  constructor
  · intro hsuffix
    obtain hnil | ⟨start, hstart, hbefore⟩ := List.suffix_concat_iff.mp hsuffix
    · cases hnil
    obtain rfl : ['\n'] = start := (List.append_inj' hstart rfl).1
    rcases List.eq_nil_or_concat line with hnil | ⟨front, c, rfl⟩
    · exact hnil
    · rw [List.concat_eq_append, ← List.append_assoc] at hbefore
      obtain hnil | ⟨start, hstart, -⟩ := List.suffix_concat_iff.mp hbefore
      · cases hnil
      · have hsplit : [] ++ ['\n'] = start ++ [c] := hstart
        obtain ⟨-, hc⟩ := List.append_inj' hsplit rfl
        exfalso
        apply hline
        rw [List.concat_eq_append, ← hc]
        exact List.mem_append_right front (List.mem_singleton_self _)
  · rintro rfl
    rcases List.eq_nil_or_concat typed with hnil | ⟨front, line, rfl⟩
    · exact absurd hnil htyped
    · rw [List.concat_eq_append, ofLines_concat, List.append_nil]
      exact ⟨ofLines front ++ line, (List.append_assoc _ ['\n'] ['\n']).symm⟩

/-- Lines that were typed wait for more just if the last that says something is a header, or if
it is not the first line, is indented and no empty line comes last. -/
theorem isIncomplete_ofLines (hfront : ∀ line ∈ front, '\n' ∉ line)
    (hfirst : ∀ first ∈ front.head?, allBlank first = false) (hlast : IsFull last)
    (hblanks : ∀ line ∈ blanks, allBlank line = true ∧ '\n' ∉ line) :
    isIncomplete (ofLines (front ++ last :: blanks)) = true ↔
      (trim last).getLast? = some ':' ∨
        front ≠ [] ∧ startsBlank last = true ∧ (last :: blanks).getLast? ≠ some [] := by
  -- What is asked of the text is asked of its last line that says something.
  have hline := lastLine_ofLines hfront hfirst hlast fun line hmem => (hblanks line hmem).1
  have hcolon : (lastLine (ofLines (front ++ last :: blanks))).getLast? =
      (trim last).getLast? := by
    rw [hline]
    split
    · rfl
    · exact getLast?_trimEnd hlast.1
  have hindented : startsBlank (lastLine (ofLines (front ++ last :: blanks))) = true ↔
      front ≠ [] ∧ startsBlank last = true := by
    rw [hline]
    split
    · next hnone =>
      rw [trim, startsBlank_trimEnd ((allBlank_trimStart last).trans hlast.1),
        startsBlank_trimStart]
      simp [hnone]
    · next hsome =>
      rw [startsBlank_trimEnd hlast.1]
      simp [hsome]
  have hempty (hsome : front ≠ []) :
      endsWithEmptyLine (ofLines (front ++ last :: blanks)) = true ↔
        (last :: blanks).getLast? = some [] := by
    rcases List.eq_nil_or_concat (last :: blanks) with hnil | ⟨before, line, hconcat⟩
    · cases hnil
    · have hmem : line ∈ last :: blanks := by
        rw [hconcat, List.concat_eq_append]
        exact List.mem_append_right before (List.mem_singleton_self line)
      have hnone : '\n' ∉ line := by
        rcases List.mem_cons.mp hmem with rfl | hblank
        · exact hlast.2
        · exact (hblanks line hblank).2
      rw [hconcat, List.concat_eq_append, ← List.append_assoc,
        endsWithEmptyLine_ofLines (List.append_ne_nil_of_left_ne_nil hsome before) hnone,
        List.getLast?_concat, Option.some.injEq]
  simp only [isIncomplete, hcolon, beq_iff_eq]
  split
  · next hheader => exact iff_of_true rfl (.inl hheader)
  · next hheader =>
    rw [or_iff_right hheader]
    split
    · next hstart =>
      obtain ⟨hsome, hblank⟩ := hindented.mp hstart
      rw [Bool.not_eq_true', ← Bool.not_eq_true, hempty hsome]
      exact ⟨fun hopen => ⟨hsome, hblank, hopen⟩, fun h => h.2.2⟩
    · next hstart =>
      refine iff_of_false Bool.false_ne_true ?_
      rintro ⟨hsome, hblank, -⟩
      exact hstart (hindented.mpr ⟨hsome, hblank⟩)

end Statement

namespace StatementBuffer

variable {typed : List (List Char)} {raw : List Char}

/-- The buffer with these lines in it. -/
def holding (typed : List (List Char)) : StatementBuffer :=
  ⟨typed.map (· ++ ['\n']), false⟩

theorem push_holding (hbegun : typed ≠ [] ∨ allBlank raw = false) :
    (holding typed).push (String.ofList raw) =
      if Statement.isIncomplete (ofLines (typed ++ [dropLineEnd raw])) then
        (.incomplete, holding (typed ++ [dropLineEnd raw]))
      else (.statement (String.ofList (ofLines (typed ++ [dropLineEnd raw]))), empty) := by
  have hheld : ⟨(holding typed).lines ++ [dropLineEnd raw ++ ['\n']], false⟩ =
      holding (typed ++ [dropLineEnd raw]) := by
    rw [holding, holding, List.map_append, List.map_singleton]
  have hignored : ((holding typed).isEmpty && allBlank (dropLineEnd raw)) = false := by
    rcases hbegun with hsome | hfull
    · rw [isEmpty, holding, List.isEmpty_map, List.isEmpty_eq_false_iff.mpr hsome, Bool.false_and]
    · rw [allBlank_dropLineEnd, hfull, Bool.and_false]
  have hfree : (holding typed).awaitingInput = false := rfl
  simp only [push, String.toList_ofList, hfree, hignored, hheld, Bool.false_eq_true, if_false]
  rfl

theorem push_open (htyped : ∀ line ∈ typed, IsFull line) (hraw : IsFull raw)
    (hopen : (trim raw).getLast? = some ':' ∨ typed ≠ [] ∧ startsBlank raw = true) :
    (holding typed).push (String.ofList raw) =
      (.incomplete, holding (typed ++ [dropLineEnd raw])) := by
  have hwaits : Statement.isIncomplete (ofLines (typed ++ [dropLineEnd raw])) = true := by
    apply (Statement.isIncomplete_ofLines (fun line hline => (htyped line hline).2)
      (fun first hfirst => (htyped first (List.mem_of_mem_head? hfirst)).1)
      hraw.dropLineEnd (by rintro _ ⟨⟩)).mpr
    rw [trim_dropLineEnd, startsBlank_dropLineEnd hraw.1]
    refine hopen.imp_right ?_
    rintro ⟨hsome, hblank⟩
    refine ⟨hsome, hblank, ?_⟩
    rw [List.getLast?_singleton, ne_eq, Option.some.injEq]
    exact hraw.dropLineEnd.ne_nil
  rw [push_holding (.inr hraw.1), if_pos hwaits]

theorem push_flush (htyped : ∀ line ∈ typed, IsFull line) (hraw : IsFull raw)
    (hheader : (trim raw).getLast? ≠ some ':') (hflush : startsBlank raw = false) :
    (holding typed).push (String.ofList raw) =
      (.statement (String.ofList (ofLines (typed ++ [dropLineEnd raw]))), empty) := by
  have hcomplete : ¬ Statement.isIncomplete (ofLines (typed ++ [dropLineEnd raw])) = true := by
    rw [Statement.isIncomplete_ofLines (fun line hline => (htyped line hline).2)
      (fun first hfirst => (htyped first (List.mem_of_mem_head? hfirst)).1)
      hraw.dropLineEnd (by rintro _ ⟨⟩), trim_dropLineEnd, startsBlank_dropLineEnd hraw.1]
    rintro (hcolon | ⟨-, hblank, -⟩)
    · exact hheader hcolon
    · rw [hflush] at hblank
      cases hblank
  rw [push_holding (.inr hraw.1), if_neg hcomplete]

theorem push_empty {last : List Char} (htyped : ∀ line ∈ typed ++ [last], IsFull line)
    (hheader : (trim last).getLast? ≠ some ':') :
    (holding (typed ++ [last])).push "" =
      (.statement (String.ofList (ofLines (typed ++ [last] ++ [[]]))), empty) := by
  obtain ⟨hfront, hlast⟩ := List.forall_mem_append.mp htyped
  have hcomplete : ¬ Statement.isIncomplete (ofLines (typed ++ [last] ++ [[]])) = true := by
    rw [List.append_assoc, List.singleton_append,
      Statement.isIncomplete_ofLines (fun line hline => (hfront line hline).2)
      (fun first hfirst => (hfront first (List.mem_of_mem_head? hfirst)).1)
      (hlast last (List.mem_singleton_self last)) ?_]
    · rintro (hcolon | ⟨-, -, hend⟩)
      · exact hheader hcolon
      · exact hend rfl
    · intro line hline
      obtain rfl := List.mem_singleton.mp hline
      exact ⟨rfl, List.not_mem_nil⟩
  have hbegun : typed ++ [last] ≠ [] := List.append_ne_nil_of_right_ne_nil _ (List.cons_ne_nil _ _)
  rw [← String.ofList_nil, push_holding (.inl hbegun)]
  exact if_neg hcomplete

/-- What becomes of lines that are typed one after the other, and the buffer behind them. -/
def pushAll (b : StatementBuffer) : List String → List LineOutcome × StatementBuffer
  | [] => ([], b)
  | line :: lines =>
      let pushed := b.push line
      let others := pushed.2.pushAll lines
      (pushed.1 :: others.1, others.2)

theorem pushAll_singleton (b : StatementBuffer) (line : String) :
    b.pushAll [line] = ([(b.push line).1], (b.push line).2) :=
  rfl

theorem pushAll_append (b : StatementBuffer) (lines more : List String) :
    b.pushAll (lines ++ more) =
      ((b.pushAll lines).1 ++ ((b.pushAll lines).2.pushAll more).1,
        ((b.pushAll lines).2.pushAll more).2) := by
  induction lines generalizing b with
  | nil => rfl
  | cons line lines ih =>
      rw [List.cons_append, pushAll, pushAll, ih]
      rfl

theorem pushAll_open {raws : List (List Char)} (hbegun : typed ≠ [])
    (htyped : ∀ line ∈ typed, IsFull line) (hraws : ∀ raw ∈ raws, IsFull raw)
    (hopen : ∀ raw ∈ raws, (trim raw).getLast? = some ':' ∨ startsBlank raw = true) :
    (holding typed).pushAll (raws.map String.ofList) =
      (List.replicate raws.length .incomplete, holding (typed ++ raws.map dropLineEnd)) := by
  induction raws generalizing typed with
  | nil => rw [List.map_nil, List.map_nil, List.append_nil, pushAll, List.length_nil,
      List.replicate_zero]
  | cons raw raws ih =>
      obtain ⟨hraw, hmore⟩ := List.forall_mem_cons.mp hraws
      obtain ⟨hfirst, hothers⟩ := List.forall_mem_cons.mp hopen
      have hkept : ∀ line ∈ typed ++ [dropLineEnd raw], IsFull line := by
        rw [List.forall_mem_append]
        refine ⟨htyped, fun line hline => ?_⟩
        obtain rfl := List.mem_singleton.mp hline
        exact hraw.dropLineEnd
      -- Behind the first line an indented one leaves the statement open, too.
      have hpush := push_open htyped hraw (hfirst.imp_right fun hblank => ⟨hbegun, hblank⟩)
      have hrest := ih (List.append_ne_nil_of_left_ne_nil hbegun _) hkept hmore hothers
      rw [List.append_assoc, List.singleton_append] at hrest
      simp only [List.map_cons, pushAll, hpush, hrest, List.length_cons, List.replicate_succ]

theorem pushAll_header {header : List Char} (hheader : IsFull header)
    (hcolon : (trim header).getLast? = some ':') {raws : List (List Char)}
    (hraws : ∀ raw ∈ raws, IsFull raw)
    (hopen : ∀ raw ∈ raws, (trim raw).getLast? = some ':' ∨ startsBlank raw = true) :
    empty.pushAll ((header :: raws).map String.ofList) =
      (List.replicate (header :: raws).length .incomplete,
        holding ((header :: raws).map dropLineEnd)) := by
  have hbegin : empty.push (String.ofList header) = (.incomplete, holding [dropLineEnd header]) :=
    push_open (List.forall_mem_nil IsFull) hheader (.inl hcolon)
  have hkept : ∀ line ∈ [dropLineEnd header], IsFull line := by
    intro line hline
    obtain rfl := List.mem_singleton.mp hline
    exact hheader.dropLineEnd
  have hbody := pushAll_open (List.cons_ne_nil _ _) hkept hraws hopen
  rw [List.map_cons, pushAll, hbegin, hbody, List.length_cons, List.replicate_succ, List.map_cons,
    List.singleton_append]

/-- A header, lines that leave the block open and an empty line are one statement. -/
theorem pushAll_block {header last : List Char} {between : List (List Char)}
    (hfull : ∀ raw ∈ header :: (between ++ [last]), IsFull raw)
    (hheader : (trim header).getLast? = some ':')
    (hopen : ∀ raw ∈ between ++ [last], (trim raw).getLast? = some ':' ∨ startsBlank raw = true)
    (hlast : (trim last).getLast? ≠ some ':') :
    empty.pushAll ((header :: (between ++ [last]) ++ [[]]).map String.ofList) =
      (List.replicate (header :: (between ++ [last])).length .incomplete ++
        [.statement (String.ofList
          (ofLines ((header :: (between ++ [last]) ++ [[]]).map dropLineEnd)))], empty) := by
  obtain ⟨hfirst, hmore⟩ := List.forall_mem_cons.mp hfull
  have hsplit : (header :: (between ++ [last])).map dropLineEnd =
      (header :: between).map dropLineEnd ++ [dropLineEnd last] := by
    rw [← List.cons_append, List.map_append, List.map_singleton]
  have hkept : ∀ line ∈ (header :: between).map dropLineEnd ++ [dropLineEnd last],
      IsFull line := by
    rw [← hsplit, List.forall_mem_map]
    exact fun raw hraw => (hfull raw hraw).dropLineEnd
  have hend := push_empty hkept (by rwa [trim_dropLineEnd])
  rw [← hsplit] at hend
  rw [List.map_append, pushAll_append, pushAll_header hfirst hheader hmore hopen,
    List.map_singleton, String.ofList_nil, pushAll_singleton, hend, List.map_append]
  rfl

end StatementBuffer
end ScriptConsole
