import ScriptConsole.History
import ScriptConsole.Proofs.Text.Lines

/-!
Recalling from a history. Whatever was asked of it before, the history holds the texts that were
pushed and a cursor among them or behind the newest; a step goes to the neighbouring place, and back
again. A text cursor in an input area lets a step happen only where no further line is in its way.
-/

namespace ScriptConsole

/-! ### The text cursor -/

namespace CursorLine

/-- A text cursor that selects nothing, between two characters of the text, with no end of a line
before it for a step backwards and none behind it for a step forwards. Places are counted in
bytes. -/
def AtEdge (direction : Direction) (text : String) (start stop : Nat) : Prop :=
  start = stop ∧ ∃ before after : String, text = before ++ after ∧ before.utf8ByteSize = start ∧
    '\n' ∉ (match direction with
      | .previous => before
      | .next => after).toList

/-- A step in this direction may be made from this line. -/
def allows (cursor : CursorLine) : Direction → Bool
  | .previous => cursor.isFirst
  | .next => cursor.isLast

theorem utf8ByteSize_cons (c : Char) (s : List Char) :
    (String.ofList (c :: s)).utf8ByteSize = c.utf8Size + (String.ofList s).utf8ByteSize := by
  rw [String.ofList_cons, String.utf8ByteSize_append, String.utf8ByteSize_singleton]

theorem charsBefore?_utf8ByteSize (before after : List Char) :
    charsBefore? (String.ofList before).utf8ByteSize (before ++ after) = some before := by
  induction before with
  | nil => exact charsBefore?.eq_1 after
  | cons c before ih =>
      have hpos : 0 < c.utf8Size := c.utf8Size_pos
      rw [utf8ByteSize_cons]
      cases hsize : c.utf8Size + (String.ofList before).utf8ByteSize with
      | zero => omega
      | succ n =>
          have hrest : n + 1 - c.utf8Size = (String.ofList before).utf8ByteSize := by omega
          rw [List.cons_append, charsBefore?, if_pos (by omega), hrest, ih]
          rfl

theorem exists_of_charsBefore? {n : Nat} {s before : List Char}
    (h : charsBefore? n s = some before) :
    ∃ after, s = before ++ after ∧ (String.ofList before).utf8ByteSize = n := by
  fun_induction charsBefore? n s generalizing before with
  | case1 s =>
      cases h
      exact ⟨s, rfl, String.utf8ByteSize_empty⟩
  | case2 => cases h
  | case3 n c rest hfits ih =>
      obtain ⟨more, hmore, rfl⟩ := Option.map_eq_some_iff.mp h
      obtain ⟨after, rfl, hsize⟩ := ih hmore
      refine ⟨after, rfl, ?_⟩
      rw [utf8ByteSize_cons, hsize]
      omega
  | case4 => cases h

theorem locate_append (before after : String) :
    locate (before ++ after) before.utf8ByteSize before.utf8ByteSize =
      some ⟨before.toList.count '\n' + 1,
        (before.toList.count '\n' + after.toList.count '\n') + 1⟩ := by
  have hchars := charsBefore?_utf8ByteSize before.toList after.toList
  rw [String.ofList_toList] at hchars
  rw [locate, if_pos rfl, String.toList_append, hchars, Option.map_some, Text.length_splitOn,
    Text.length_splitOn, List.count_append]

theorem exists_of_locate {text : String} {start stop : Nat} {cursor : CursorLine}
    (h : locate text start stop = some cursor) :
    start = stop ∧ ∃ before after : String, text = before ++ after ∧
      before.utf8ByteSize = start := by
  rw [locate] at h
  split at h
  · next hsame =>
    obtain ⟨before, hbefore, -⟩ := Option.map_eq_some_iff.mp h
    obtain ⟨after, htext, hsize⟩ := exists_of_charsBefore? hbefore
    refine ⟨hsame, String.ofList before, String.ofList after, ?_, hsize⟩
    rw [← String.ofList_append, ← htext, String.ofList_toList]
  · cases h

theorem atEdge_iff {direction : Direction} {text : String} {start stop : Nat} :
    AtEdge direction text start stop ↔
      ∃ cursor, locate text start stop = some cursor ∧ cursor.allows direction = true := by
  constructor
  · rintro ⟨rfl, before, after, rfl, rfl, hnone⟩
    refine ⟨_, locate_append before after, ?_⟩
    cases direction with
    | previous => simpa [allows, isFirst, List.count_eq_zero] using hnone
    | next => simpa [allows, isLast, List.count_eq_zero] using hnone
  · rintro ⟨cursor, hlocate, hallows⟩
    obtain ⟨rfl, before, after, rfl, rfl⟩ := exists_of_locate hlocate
    rw [locate_append] at hlocate
    cases hlocate
    refine ⟨rfl, before, after, rfl, rfl, ?_⟩
    cases direction with
    | previous => simpa [allows, isFirst, List.count_eq_zero] using hallows
    | next => simpa [allows, isLast, List.count_eq_zero] using hallows

end CursorLine

namespace History

/-! ### Steps -/

/-- One step of the cursor and the text that it comes to: an entry, or nothing behind the newest
one. -/
inductive Steps (h : History) : Direction → String → History → Prop where
  | back {place : Nat} {text : String} (hplace : h.cursor = place + 1)
      (htext : h.entries[place]? = some text) : Steps h .previous text ⟨h.entries, place⟩
  | forth {text : String} (htext : h.entries[h.cursor + 1]? = some text) :
      Steps h .next text ⟨h.entries, h.cursor + 1⟩
  | behind (hlast : h.cursor + 1 = h.entries.length) :
      Steps h .next "" ⟨h.entries, h.cursor + 1⟩

def step (h : History) : Direction → Option String × History
  | .previous => h.previous
  | .next => h.next

variable {h : History} {direction : Direction} {text : String}

theorem step_eq_some_iff (hcursor : h.cursor ≤ h.entries.length) {after : History} :
    h.step direction = (some text, after) ↔ h.Steps direction text after := by
  obtain ⟨entries, cursor⟩ := h
  constructor
  · intro hstep
    cases direction with
    | previous =>
        cases cursor with
        | zero => cases hstep
        | succ place =>
            obtain ⟨htext, rfl⟩ := Prod.mk.inj hstep
            exact .back rfl htext
    | next =>
        rw [step, next] at hstep
        split at hstep
        · next hlt =>
          obtain ⟨htext, rfl⟩ := Prod.mk.inj hstep
          -- From the newest entry the step leads behind it, where the line is empty.
          cases hentry : entries[cursor + 1]? with
          | none =>
              have hlast : cursor + 1 = entries.length := by
                have := List.getElem?_eq_none_iff.mp hentry
                dsimp only at hlt
                omega
              rw [hentry] at htext
              cases htext
              exact .behind hlast
          | some entry =>
              rw [hentry] at htext
              cases htext
              exact .forth hentry
        · cases hstep
  · rintro (⟨hplace, htext⟩ | htext | hlast)
    · obtain rfl : cursor = _ := hplace
      exact congrArg (·, _) htext
    · have hlt := (List.getElem?_eq_some_iff.mp htext).1
      rw [step, next, if_pos (Nat.lt_of_succ_lt hlt)]
      dsimp only at htext ⊢
      rw [htext]
      rfl
    · dsimp only at hlast ⊢
      rw [step, next, if_pos (by dsimp only; omega)]
      dsimp only
      rw [List.getElem?_eq_none (by omega)]
      rfl

theorem step_of_none (h : History) (hnone : (h.step direction).1 = none)
    (hcursor : h.cursor ≤ h.entries.length) : h.step direction = (none, h) := by
  obtain ⟨entries, cursor⟩ := h
  cases direction with
  | previous =>
      cases cursor with
      | zero => rfl
      | succ place => exact absurd (List.getElem?_eq_none_iff.mp hnone) (Nat.not_le_of_lt hcursor)
  | next =>
      rw [step, next] at hnone ⊢
      split at hnone
      · cases hnone
      · next hlast => rw [if_neg hlast]

theorem step_next_step_previous (hpos : 0 < h.cursor) (hcursor : h.cursor ≤ h.entries.length) :
    (((h.step .previous).2).step .next).2 = h := by
  obtain ⟨entries, cursor⟩ := h
  cases cursor with
  | zero => cases hpos
  | succ place =>
      have hprevious : (step ⟨entries, place + 1⟩ .previous).2 = ⟨entries, place⟩ := rfl
      rw [hprevious, step, next, if_pos (Nat.lt_of_succ_le hcursor)]

theorem recallFrom_of_allows {cursor : CursorLine} (hallows : cursor.allows direction = true) :
    h.recallFrom direction (some cursor) = h.step direction := by
  cases direction with
  | previous => exact if_pos hallows
  | next => exact if_pos hallows

theorem recallFrom_of_not_allows {cursor : CursorLine}
    (hallows : ¬ cursor.allows direction = true) :
    h.recallFrom direction (some cursor) = (none, h) := by
  cases direction with
  | previous => exact if_neg hallows
  | next => exact if_neg hallows

/-! ### Runs -/

/-- What a history is asked for. -/
inductive Request where
  | push (text : String)
  | step (direction : Direction)
  /-- An arrow key, where the text cursor stands in an input area. -/
  | arrow (direction : Direction) (cursor : Option CursorLine)

def Request.pushed? : Request → Option String
  | push text => some text
  | step _ => none
  | arrow _ _ => none

def answer (h : History) : Request → Option String × History
  | .push text => (none, h.push text)
  | .step direction => h.step direction
  | .arrow direction cursor => h.recallFrom direction cursor

/-- The history after all requests. -/
def answerAll (h : History) (requests : List Request) : History :=
  requests.foldl (fun h request => (h.answer request).2) h

theorem answerAll_cons (request : Request) (requests : List Request) :
    h.answerAll (request :: requests) = (h.answer request).2.answerAll requests :=
  rfl

theorem answerAll_append (requests more : List Request) :
    h.answerAll (requests ++ more) = (h.answerAll requests).answerAll more :=
  List.foldl_append

theorem step_keeps (hcursor : h.cursor ≤ h.entries.length) (direction : Direction) :
    (h.step direction).2.entries = h.entries ∧
      (h.step direction).2.cursor ≤ h.entries.length := by
  cases hstep : h.step direction with
  | mk found after =>
    cases found with
    | none =>
        rw [step_of_none h (by rw [hstep]) hcursor] at hstep
        cases hstep
        exact ⟨rfl, hcursor⟩
    | some text =>
        cases (step_eq_some_iff hcursor).mp hstep with
        | back hplace htext => exact ⟨rfl, by dsimp only; omega⟩
        | forth htext => exact ⟨rfl, Nat.le_of_lt (List.getElem?_eq_some_iff.mp htext).1⟩
        | behind hlast => exact ⟨rfl, Nat.le_of_eq hlast⟩

theorem recallFrom_or (h : History) (direction : Direction) (cursor : Option CursorLine) :
    h.recallFrom direction cursor = h.step direction ∨
      h.recallFrom direction cursor = (none, h) := by
  cases cursor with
  | none => exact .inr rfl
  | some cursor =>
      by_cases hallows : cursor.allows direction = true
      · exact .inl (recallFrom_of_allows hallows)
      · exact .inr (recallFrom_of_not_allows hallows)

theorem answer_keeps (hcursor : h.cursor ≤ h.entries.length) (request : Request) :
    (h.answer request).2.entries = h.entries ++ request.pushed?.toList ∧
      (h.answer request).2.cursor ≤ (h.answer request).2.entries.length := by
  have hstep (direction : Direction) : (h.step direction).2.entries = h.entries ++ [] ∧
      (h.step direction).2.cursor ≤ (h.step direction).2.entries.length := by
    obtain ⟨hentries, hplace⟩ := step_keeps hcursor direction
    rw [hentries, List.append_nil]
    exact ⟨rfl, hplace⟩
  cases request with
  | push text => exact ⟨rfl, by simp [answer, push]⟩
  | step direction => exact hstep direction
  | arrow direction cursor =>
      rw [answer]
      rcases recallFrom_or h direction cursor with hsame | hnone
      · rw [hsame]
        exact hstep direction
      · rw [hnone]
        exact ⟨(List.append_nil _).symm, hcursor⟩

theorem answerAll_keeps (hcursor : h.cursor ≤ h.entries.length) (requests : List Request) :
    (h.answerAll requests).entries = h.entries ++ requests.filterMap Request.pushed? ∧
      (h.answerAll requests).cursor ≤ (h.answerAll requests).entries.length := by
  induction requests generalizing h with
  | nil => exact ⟨(List.append_nil _).symm, hcursor⟩
  | cons request requests ih =>
      obtain ⟨hentries, hplace⟩ := answer_keeps hcursor request
      obtain ⟨hmore, hlast⟩ := ih hplace
      rw [answerAll_cons]
      refine ⟨?_, hlast⟩
      rw [hmore, hentries, List.append_assoc, List.filterMap_cons]
      cases request.pushed? <;> rfl

theorem answerAll_back_forth {n : Nat} (hn : n ≤ h.cursor)
    (hcursor : h.cursor ≤ h.entries.length) :
    h.answerAll (List.replicate n (.step .previous) ++ List.replicate n (.step .next)) = h := by
  -- The first step backwards is undone by the last one forwards.
  induction n generalizing h with
  | zero => rfl
  | succ n ih =>
      obtain ⟨hentries, hplace⟩ := step_keeps hcursor .previous
      have hbefore : (h.step .previous).2.cursor = h.cursor - 1 := by
        obtain ⟨entries, cursor⟩ := h
        cases cursor <;> rfl
      rw [List.replicate_succ, List.replicate_succ', List.cons_append, ← List.append_assoc,
        answerAll_cons, answer, answerAll_append, ih (by omega) (by rw [hentries]; exact hplace)]
      exact step_next_step_previous (by omega) hcursor

/-- Whatever a new history was asked for: its entries are the texts that were pushed, and its cursor
is among them or behind the newest, as it is after a push. A step comes to the neighbouring entry,
or behind the newest, and gives what is there; without a neighbour nothing happens. Steps backwards
can be undone. A recall is the step if the text cursor is at the edge of its text, and else
nothing. -/
theorem recall_walks_entries (requests : List Request) :
    let h := empty.answerAll requests
    h.entries = requests.filterMap Request.pushed? ∧
    h.cursor ≤ h.entries.length ∧
    (∀ text, (h.push text).cursor = (h.push text).entries.length) ∧
    (∀ direction text after,
      h.step direction = (some text, after) ↔ h.Steps direction text after) ∧
    (∀ direction, (h.step direction).1 = none → h.step direction = (none, h)) ∧
    (∀ direction cursor, h.recallFrom direction cursor = h.step direction ∨
      h.recallFrom direction cursor = (none, h)) ∧
    (∀ n ≤ h.cursor,
      h.answerAll (List.replicate n (.step .previous) ++ List.replicate n (.step .next)) = h) ∧
    ∀ direction text start stop,
      (CursorLine.AtEdge direction text start stop →
        h.recallFrom direction (CursorLine.locate text start stop) = h.step direction) ∧
      (¬ CursorLine.AtEdge direction text start stop →
        h.recallFrom direction (CursorLine.locate text start stop) = (none, h)) := by
  intro h
  obtain ⟨hentries, hcursor⟩ : h.entries = [] ++ requests.filterMap Request.pushed? ∧
      h.cursor ≤ h.entries.length := @answerAll_keeps empty (Nat.le_refl 0) requests
  refine ⟨hentries, hcursor, ?_, fun _ _ _ => step_eq_some_iff hcursor,
    fun _ hnone => step_of_none h hnone hcursor, recallFrom_or h,
    fun _ hn => answerAll_back_forth hn hcursor, ?_⟩
  · intro text
    simp [push]
  · intro direction text start stop
    rw [CursorLine.atEdge_iff]
    constructor
    · rintro ⟨cursor, hlocate, hallows⟩
      rw [hlocate, recallFrom_of_allows hallows]
    · intro hnone
      cases hlocate : CursorLine.locate text start stop with
      | none => rfl
      | some cursor =>
          exact recallFrom_of_not_allows fun hallows => hnone ⟨cursor, hlocate, hallows⟩

/-- A text cursor behind a letter of two bytes, on the first of two lines. -/
theorem recall_walks_entries_of_two :
    let h := empty.answerAll [.push "é\nb", .push "c", .step .previous]
    h = ⟨["é\nb", "c"], 1⟩ ∧ h.answerAll [.step .previous, .step .next] = h ∧
    h.recallFrom .previous (CursorLine.locate "é\nb" 2 2) = (some "é\nb", ⟨h.entries, 0⟩) ∧
    h.recallFrom .next (CursorLine.locate "é\nb" 2 2) = (none, h) := by
  intro h
  obtain ⟨-, -, -, hstep, -, -, hback, hrecall⟩ :=
    recall_walks_entries [.push "é\nb", .push "c", .step .previous]
  have htext : "é\nb" = "é" ++ "\nb" := by decide +kernel
  have hfirst : CursorLine.AtEdge .previous "é\nb" 2 2 :=
    ⟨rfl, "é", "\nb", htext, by decide +kernel, by decide +kernel⟩
  have hlast : ¬ CursorLine.AtEdge .next "é\nb" 2 2 := by
    rw [CursorLine.atEdge_iff, htext]
    rintro ⟨cursor, hlocate, hallows⟩
    cases hlocate.symm.trans (CursorLine.locate_append "é" "\nb")
    exact absurd hallows (by decide +kernel)
  refine ⟨rfl, hback 1 (by decide), ?_, (hrecall .next "é\nb" 2 2).2 hlast⟩
  exact ((hrecall .previous "é\nb" 2 2).1 hfirst).trans ((hstep _ _ _).mpr (.back rfl rfl))

end History
end ScriptConsole
