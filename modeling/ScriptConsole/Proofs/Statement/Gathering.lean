import ScriptConsole.Proofs.Statement.Completion

/-!
What a statement buffer holds. A line that is typed stays in the buffer until the statement that it
belongs to is handed out, and what is left in the buffer is never complete. Only blank lines in
front of a statement are dropped.
-/

namespace ScriptConsole

open Text

/-- A typed line with a newline for its end. -/
def Text.endedLine (line : String) : List Char :=
  dropLineEnd line.toList ++ ['\n']

/-- The text that is handed out. -/
def LineOutcome.given : LineOutcome → List Char
  | statement source => source.toList
  | _ => []

namespace StatementBuffer

variable {typed left : List (List Char)} {line : List Char} {outcome : LineOutcome}
  {IsTyped : String → Prop}

/-! ### One line -/

/-- What becomes of a line behind the typed ones, and the lines that are left. -/
inductive Pushes (typed : List (List Char)) (line : List Char) :
    LineOutcome → List (List Char) → Prop where
  | ignored (hnone : typed = []) (hblank : allBlank line = true) : Pushes typed line .ignored []
  | incomplete (hbegun : typed ≠ [] ∨ allBlank line = false)
      (hwaits : Statement.isIncomplete (ofLines (typed ++ [line])) = true) :
      Pushes typed line .incomplete (typed ++ [line])
  | statement (hbegun : typed ≠ [] ∨ allBlank line = false)
      (hcomplete : Statement.isIncomplete (ofLines (typed ++ [line])) = false) :
      Pushes typed line (.statement (String.ofList (ofLines (typed ++ [line])))) []

theorem begun_iff :
    typed ≠ [] ∨ allBlank line = false ↔ ¬ (typed = [] ∧ allBlank line = true) := by
  rw [not_and_or, Bool.not_eq_true]

theorem exists_pushes (typed : List (List Char)) (line : String) : ∃ outcome left,
    (holding typed).push line = (outcome, holding left) ∧
      Pushes typed (dropLineEnd line.toList) outcome left := by
  by_cases hbegun : typed ≠ [] ∨ allBlank line.toList = false
  · have hpush := push_holding hbegun
    rw [String.ofList_toList] at hpush
    rw [← allBlank_dropLineEnd] at hbegun
    split at hpush
    · next hwaits => exact ⟨_, _, hpush, .incomplete hbegun hwaits⟩
    · next hcomplete =>
      exact ⟨_, _, hpush, .statement hbegun (Bool.not_eq_true _ ▸ hcomplete)⟩
  · obtain ⟨rfl, hblank⟩ := not_not.mp (mt begun_iff.mpr hbegun)
    rw [← allBlank_dropLineEnd] at hblank
    refine ⟨.ignored, [], ?_, .ignored rfl hblank⟩
    have hignored : ((holding []).isEmpty && allBlank (dropLineEnd line.toList)) = true := hblank
    simp only [push, hignored]
    rfl

theorem pending_holding (typed : List (List Char)) : (holding typed).pending = ofLines typed :=
  rfl

theorem isEmpty_holding : (holding typed).isEmpty = true ↔ typed = [] := by
  rw [isEmpty, holding, List.isEmpty_map, List.isEmpty_iff]

theorem Pushes.text (h : Pushes typed line outcome left) : outcome.given ++ ofLines left =
    ofLines typed ++ if outcome = .ignored then [] else line ++ ['\n'] := by
  cases h with
  | ignored hnone hblank =>
      rw [hnone]
      rfl
  | incomplete hbegun hwaits =>
      rw [ofLines_append, ofLines_singleton]
      rfl
  | statement hbegun hcomplete =>
      rw [LineOutcome.given, String.toList_ofList, ofLines_append, ofLines_singleton]
      exact List.append_nil _

theorem Pushes.ignored_iff (h : Pushes typed line outcome left) :
    outcome = .ignored ↔ typed = [] ∧ allBlank line = true := by
  cases h with
  | ignored hnone hblank => exact iff_of_true rfl ⟨hnone, hblank⟩
  | incomplete hbegun => exact iff_of_false (by rintro ⟨⟩) (begun_iff.mp hbegun)
  | statement hbegun => exact iff_of_false (by rintro ⟨⟩) (begun_iff.mp hbegun)

theorem Pushes.incomplete_iff (h : Pushes typed line outcome left)
    (hbegun : typed ≠ [] ∨ allBlank line = false) :
    outcome = .incomplete ↔ Statement.isIncomplete (ofLines (typed ++ [line])) = true := by
  cases h with
  | ignored hnone hblank => exact absurd ⟨hnone, hblank⟩ (begun_iff.mp hbegun)
  | incomplete _ hwaits => exact iff_of_true rfl hwaits
  | statement _ hcomplete =>
      exact iff_of_false (by rintro ⟨⟩) (Bool.eq_false_iff.mp hcomplete)

theorem Pushes.statement_iff (h : Pushes typed line outcome left)
    (hbegun : typed ≠ [] ∨ allBlank line = false) :
    outcome = .statement (String.ofList (ofLines (typed ++ [line]))) ↔
      Statement.isIncomplete (ofLines (typed ++ [line])) = false := by
  cases h with
  | ignored hnone hblank => exact absurd ⟨hnone, hblank⟩ (begun_iff.mp hbegun)
  | incomplete _ hwaits =>
      exact iff_of_false (by rintro ⟨⟩) fun h => Bool.noConfusion (h.symm.trans hwaits)
  | statement _ hcomplete => exact iff_of_true rfl hcomplete

/-! ### What a buffer holds between two lines -/

/-- A statement that waits for more lines, begun by a line that says something. -/
structure Waits (IsTyped : String → Prop) (typed : List (List Char)) : Prop where
  lines : ∀ line ∈ typed, ∃ raw, IsTyped raw ∧ line = dropLineEnd raw.toList
  full : ∀ first ∈ typed.head?, allBlank first = false
  incomplete : typed ≠ [] → Statement.isIncomplete (ofLines typed) = true

theorem waits_nil : Waits IsTyped [] where
  lines := List.forall_mem_nil _
  full := by rintro _ ⟨⟩
  incomplete h := absurd rfl h

theorem Waits.full_concat (h : Waits IsTyped typed) (hbegun : typed ≠ [] ∨ allBlank line = false) :
    ∀ first ∈ (typed ++ [line]).head?, allBlank first = false := by
  intro first hfirst
  cases typed with
  | nil =>
      obtain rfl := Option.some.inj hfirst
      exact hbegun.resolve_left fun hsome => hsome rfl
  | cons other typed => exact h.full first hfirst

theorem Waits.lines_concat (h : Waits IsTyped typed) {raw : String} (hraw : IsTyped raw) :
    ∀ line ∈ typed ++ [dropLineEnd raw.toList],
      ∃ raw, IsTyped raw ∧ line = dropLineEnd raw.toList := by
  rw [List.forall_mem_append]
  exact ⟨h.lines, List.forall_mem_singleton.mpr ⟨raw, hraw, rfl⟩⟩

theorem Pushes.waits {raw : String} (h : Pushes typed (dropLineEnd raw.toList) outcome left)
    (hwaits : Waits IsTyped typed) (hraw : IsTyped raw) : Waits IsTyped left := by
  cases h with
  | ignored => exact waits_nil
  | incomplete hbegun hincomplete =>
      exact ⟨hwaits.lines_concat hraw, hwaits.full_concat hbegun, fun _ => hincomplete⟩
  | statement => exact waits_nil

/-! ### Line after line -/

variable {raws : List String}

/-- The lines that were not ignored. -/
def keptLines (raws : List String) (outcomes : List LineOutcome) : List Char :=
  ((raws.zip outcomes).filter fun typed => typed.2 != .ignored).flatMap
    fun typed => endedLine typed.1

theorem pushAll_length (b : StatementBuffer) (raws : List String) :
    (b.pushAll raws).1.length = raws.length := by
  induction raws generalizing b with
  | nil => rfl
  | cons raw raws ih => exact congrArg (· + 1) (ih _)

theorem pushAll_text (typed : List (List Char)) (raws : List String) :
    ((holding typed).pushAll raws).1.flatMap LineOutcome.given ++
        ((holding typed).pushAll raws).2.pending =
      ofLines typed ++ keptLines raws ((holding typed).pushAll raws).1 := by
  induction raws generalizing typed with
  | nil => exact (List.append_nil _).symm
  | cons raw raws ih =>
      obtain ⟨outcome, left, hpush, hpushes⟩ := exists_pushes typed raw
      have hrest := ih left
      have hkept (outcomes : List LineOutcome) :
          keptLines (raw :: raws) (outcome :: outcomes) =
            (if outcome = .ignored then [] else endedLine raw) ++ keptLines raws outcomes := by
        rw [keptLines, List.zip_cons_cons, List.filter_cons]
        by_cases hignored : outcome = .ignored
        · rw [if_pos hignored, if_neg (by simpa using hignored)]
          rfl
        · rw [if_neg hignored, if_pos (by simpa using hignored)]
          rfl
      simp only [pushAll, hpush]
      rw [List.flatMap_cons, List.append_assoc, hrest, ← List.append_assoc, hpushes.text, hkept,
        List.append_assoc]
      rfl

theorem pushAll_waits (hwaits : Waits IsTyped typed) (hraws : ∀ raw ∈ raws, IsTyped raw) :
    ∃ left, ((holding typed).pushAll raws).2 = holding left ∧ Waits IsTyped left := by
  induction raws generalizing typed with
  | nil => exact ⟨typed, rfl, hwaits⟩
  | cons raw raws ih =>
      obtain ⟨hraw, hmore⟩ := List.forall_mem_cons.mp hraws
      obtain ⟨outcome, left, hpush, hpushes⟩ := exists_pushes typed raw
      simp only [pushAll, hpush]
      exact ih (hpushes.waits hwaits hraw) hmore

/-- No line is lost, given out twice or out of its place. After any lines that were typed, the
statements that were handed out and what the buffer holds are the lines in their order, each with
one newline for its end, but for those that were ignored: a line is ignored if it is blank and
nothing is in the buffer. And what the buffer holds, if anything, begins with a typed line that
says something, and is not complete. -/
theorem typed_lines_kept (raws : List String) :
    ∃ outcomes b, StatementBuffer.empty.pushAll raws = (outcomes, b) ∧
      outcomes.length = raws.length ∧
      outcomes.flatMap LineOutcome.given ++ b.pending = keptLines raws outcomes ∧
      (∀ raw, (b.push raw).1 = .ignored ↔ b.isEmpty = true ∧ allBlank raw.toList = true) ∧
      (b.isEmpty = true ∨
        (∃ first ∈ raws, allBlank first.toList = false ∧ endedLine first <+: b.pending) ∧
          Statement.isIncomplete b.pending = true) := by
  have hstart : Waits (· ∈ raws) [] := waits_nil
  obtain ⟨left, hleft, hwaits⟩ := pushAll_waits hstart fun _ => id
  have htext := pushAll_text [] raws
  rw [hleft] at htext
  refine ⟨(empty.pushAll raws).1, holding left, Prod.ext rfl hleft, pushAll_length empty raws,
    htext, fun raw => ?_, ?_⟩
  · obtain ⟨outcome, later, hpush, hpushes⟩ := exists_pushes left raw
    rw [hpush, hpushes.ignored_iff, isEmpty_holding, allBlank_dropLineEnd]
  · rw [isEmpty_holding, pending_holding]
    cases left with
    | nil => exact .inl rfl
    | cons first left =>
        obtain ⟨raw, hraw, rfl⟩ := hwaits.lines first List.mem_cons_self
        refine .inr ⟨⟨raw, hraw, ?_, ?_⟩, hwaits.incomplete (List.cons_ne_nil _ _)⟩
        · rw [← allBlank_dropLineEnd]
          exact hwaits.full _ rfl
        · rw [ofLines_cons]
          exact ⟨ofLines left, List.append_assoc _ ['\n'] _⟩

end StatementBuffer
end ScriptConsole
