import Mathlib.Data.List.Forall2
import ScriptConsole.Proofs.Script.Blocks
import ScriptConsole.Proofs.Statement.Completion

/-!
Programs that are typed line by line. The statement buffer takes a program apart where its parts
end, and running the parts one after the other is running the program.
-/

namespace ScriptConsole

/-- The statement that a line completed. -/
def LineOutcome.statement? : LineOutcome → Option String
  | statement source => some source
  | _ => none

/-- Run texts one after the other, up to the first that does not end with a result. -/
def Interpreter.runEach {σ : Type} (interpreter : Interpreter σ) (last : Option String) :
    List String → σ → Dialogue (Ending (Option String) × σ)
  | [], state => .done (.ok last, state)
  | code :: codes, state => (interpreter.run code state).bind fun
      | (.ok result, state) => interpreter.runEach result codes state
      | (.raised error, state) => .done (.raised error, state)
      | (.panicked message, state) => .done (.panicked message, state)

namespace Script

/-! ### Parts as they are typed -/

def sayingOf (raw : List Char) : Saying :=
  (Text.trim raw, Text.startsBlank raw)

namespace Part

/-- A block is closed by an empty line. -/
def closing : Part → List (List Char)
  | statement _ => []
  | branch _ _ _ => [[]]

/-- These lines are the part as one types it. -/
def Spells (part : Part) (raws : List (List Char)) : Prop :=
  ∃ spelled, spelled.map sayingOf = part.sayings ∧ raws = spelled ++ part.closing

end Part

/-- The text that consists of typed lines. -/
def textOf (raws : List (List Char)) : String :=
  String.ofList (Text.ofLines (raws.map Text.dropLineEnd))

/-- Every line but the last is incomplete, and the last completes the statement. -/
def outcomesOf (raws : List (List Char)) : List LineOutcome :=
  List.replicate (raws.length - 1) .incomplete ++ [.statement (textOf raws)]

section Spelling

variable {sayings : List Saying} {raws : List (List Char)}

theorem Renders.append {more : List Saying} {others : List (List Char)}
    (h : Renders sayings raws) (hmore : Renders more others) :
    Renders (sayings ++ more) (raws ++ others) := by
  induction h with
  | nil => exact hmore
  | gap hgap h ih => exact .gap hgap ih
  | line htext hindented h ih => exact .line htext hindented ih

theorem renders_sayingOf (raws : List (List Char)) : Renders (raws.map sayingOf) raws := by
  induction raws with
  | nil => exact .nil
  | cons raw raws ih => exact .line rfl rfl ih

theorem sayingOf_dropLineEnd {raw : List Char} (htold : (sayingOf raw).1 ≠ []) :
    sayingOf (Text.dropLineEnd raw) = sayingOf raw := by
  have hfull : Text.allBlank raw = false := by
    rw [← Bool.not_eq_true, ← Text.trim_eq_nil_iff]
    exact htold
  rw [sayingOf, Text.trim_dropLineEnd, Text.startsBlank_dropLineEnd hfull, sayingOf]

theorem lines_textOf (hraws : ∀ raw ∈ raws, '\n' ∉ raw) :
    Text.lines (textOf raws).toList = raws.map Text.dropLineEnd := by
  have hkept : ∀ line ∈ raws.map Text.dropLineEnd, '\n' ∉ line :=
    List.forall_mem_map.mpr fun raw hraw => Text.notMem_dropLineEnd (hraws raw hraw)
  rw [textOf, String.toList_ofList, Text.lines_ofLines hkept, List.map_map]
  exact List.map_congr_left fun raw _ => Text.dropReturn_dropLineEnd raw

end Spelling

/-- A header or an indented line. -/
def Saying.LeavesOpen (saying : Saying) : Prop :=
  saying.1.getLast? = some ':' ∨ saying.2 = true

theorem Statement.sayings_leaveOpen (statements : List Statement) :
    ∀ saying ∈ sayings statements, saying.LeavesOpen := by
  intro saying hmem
  obtain ⟨statement, -, rfl⟩ := List.mem_map.mp hmem
  exact .inr rfl

theorem Suite.exists_last (suite : Suite) : ∃ (front : List Saying) (last : Statement),
    Statement.sayings suite.statements = front ++ [(last.text, true)] ∧
      ∀ saying ∈ front, saying.LeavesOpen := by
  obtain ⟨front, last, hstatements⟩ :=
    (List.eq_nil_or_concat suite.statements).resolve_left suite.full
  refine ⟨Statement.sayings front, last, ?_, Statement.sayings_leaveOpen front⟩
  rw [hstatements, List.concat_eq_append, Statement.sayings, List.map_append, List.map_singleton,
    Statement.sayings]

namespace Part

variable {part : Part} {raws : List (List Char)}

/-- A block ends with a statement, and the lines before that leave it open. -/
theorem exists_last_saying (condition : List Char) (body : Suite) (orelse : Option Suite) :
    ∃ (front : List Saying) (last : Statement),
      (branch condition body orelse).sayings =
        (ifHeader condition, false) :: (front ++ [(last.text, true)]) ∧
      ∀ saying ∈ front, saying.LeavesOpen := by
  cases orelse with
  | none =>
      obtain ⟨front, last, hbody, hfront⟩ := body.exists_last
      refine ⟨front, last, ?_, hfront⟩
      rw [sayings, hbody, orelseSayings, List.append_nil]
  | some suite =>
      obtain ⟨front, last, hsuite, hfront⟩ := suite.exists_last
      refine ⟨Statement.sayings body.statements ++ (elseHeader, false) :: front, last, ?_, ?_⟩
      · rw [sayings, orelseSayings, hsuite, List.append_assoc, List.cons_append]
      · rw [List.forall_mem_append, List.forall_mem_cons]
        exact ⟨Statement.sayings_leaveOpen _, .inl rfl, hfront⟩

theorem isFull_of_spelled {spelled : List (List Char)}
    (hspelled : spelled.map sayingOf = part.sayings) (hraws : ∀ raw ∈ spelled, '\n' ∉ raw) :
    ∀ raw ∈ spelled, Text.IsFull raw := by
  intro raw hmem
  refine ⟨?_, hraws raw hmem⟩
  rw [← Bool.not_eq_true, ← Text.trim_eq_nil_iff]
  exact (part.sayings_say (sayingOf raw) (hspelled ▸ List.mem_map_of_mem hmem)).1

theorem renders_closing (part : Part) : Renders [] part.closing := by
  cases part with
  | statement s => exact .nil
  | branch condition body orelse => exact .gap (.inl rfl) .nil

theorem Spells.renders (h : part.Spells raws) : Renders part.sayings raws := by
  obtain ⟨spelled, hspelled, rfl⟩ := h
  have hrenders := (renders_sayingOf spelled).append part.renders_closing
  rwa [hspelled, List.append_nil] at hrenders

theorem Spells.dropLineEnd (h : part.Spells raws) : part.Spells (raws.map Text.dropLineEnd) := by
  obtain ⟨spelled, hspelled, rfl⟩ := h
  refine ⟨spelled.map Text.dropLineEnd, ?_, ?_⟩
  · rw [← hspelled, List.map_map]
    apply List.map_congr_left
    intro raw hmem
    exact sayingOf_dropLineEnd
      (part.sayings_say (sayingOf raw) (hspelled ▸ List.mem_map_of_mem hmem)).1
  · rw [List.map_append]
    cases part <;> rfl

/-- A part that is typed becomes one statement, which its last line completes. -/
theorem Spells.pushAll (h : part.Spells raws) (hraws : ∀ raw ∈ raws, '\n' ∉ raw) :
    StatementBuffer.empty.pushAll (raws.map String.ofList) = (outcomesOf raws, .empty) := by
  obtain ⟨spelled, hspelled, rfl⟩ := h
  have hfull := isFull_of_spelled hspelled (List.forall_mem_append.mp hraws).1
  cases part with
  | statement s =>
      obtain ⟨raw, rfl, hraw⟩ := List.map_eq_singleton_iff.mp hspelled
      obtain ⟨htext, hflush⟩ : Text.trim raw = s.text ∧ Text.startsBlank raw = false :=
        Prod.mk.inj hraw
      have hpush := StatementBuffer.push_flush (List.forall_mem_nil Text.IsFull)
        (hfull raw (List.mem_singleton_self raw)) (htext ▸ s.noHeader) hflush
      exact congrArg (fun r => ([r.1], r.2)) hpush
  | branch condition body orelse =>
      obtain ⟨front, last, hsayings, hfront⟩ := exists_last_saying condition body orelse
      rw [hsayings] at hspelled
      obtain ⟨header, others, rfl, hheader, hothers⟩ := List.map_eq_cons_iff.mp hspelled
      obtain ⟨between, ends, rfl, hbetween, hends⟩ := List.map_eq_append_iff.mp hothers
      obtain ⟨raw, rfl, hraw⟩ := List.map_eq_singleton_iff.mp hends
      have hif : (Text.trim header).getLast? = some ':' := by
        rw [(Prod.mk.inj hheader).1]
        exact SourceLine.getLast?_ifHeader condition
      have hopen : ∀ line ∈ between ++ [raw], (sayingOf line).LeavesOpen := by
        have hsaid : ∀ saying ∈ (between ++ [raw]).map sayingOf, saying.LeavesOpen := by
          rw [hothers, List.forall_mem_append]
          exact ⟨hfront, List.forall_mem_singleton.mpr (.inr rfl)⟩
        exact List.forall_mem_map.mp hsaid
      have hlast : (Text.trim raw).getLast? ≠ some ':' := by
        rw [(Prod.mk.inj hraw).1]
        exact last.noHeader
      rw [closing, StatementBuffer.pushAll_block hfull hif hopen hlast, outcomesOf,
        List.length_append, List.length_singleton, Nat.add_sub_cancel, textOf]

theorem inOrder_singleton (part : Part) (value : Option Value) (scope : Scope) :
    inOrder run value [part] scope = part.run scope := by
  have hdone : goOn (fun value scope => inOrder run value [] scope) = Dialogue.done := by
    funext ended
    obtain ⟨outcome, scope⟩ := ended
    cases outcome <;> rfl
  rw [inOrder, hdone, Dialogue.bind_done]

theorem Spells.run_textOf (h : part.Spells raws) (hraws : ∀ raw ∈ raws, '\n' ∉ raw)
    (available : List String) (scope : Scope) :
    (interpreter available).run (textOf raws) scope = conclude (part.run scope) := by
  have hrenders : Renders ([part].flatMap sayings) (Text.lines (textOf raws).toList) := by
    rw [lines_textOf hraws, List.flatMap_singleton]
    exact h.dropLineEnd.renders
  rw [run_of_items (items_of_renders hrenders), Item.runAll_parts, inOrder_singleton]

end Part

/-! ### Programs as they are typed -/

section Programs

variable {parts : List Part} {blocks : List (List (List Char))}

theorem pushAll_parts (hspells : List.Forall₂ Part.Spells parts blocks)
    (hblocks : ∀ raw ∈ blocks.flatten, '\n' ∉ raw) :
    StatementBuffer.empty.pushAll (blocks.flatten.map String.ofList) =
      (blocks.flatMap outcomesOf, .empty) := by
  induction hspells with
  | nil => rfl
  | cons hfirst hrest ih =>
      rw [List.flatten_cons, List.forall_mem_append] at hblocks
      rw [List.flatten_cons, List.map_append, StatementBuffer.pushAll_append,
        hfirst.pushAll hblocks.1, ih hblocks.2, List.flatMap_cons]

theorem statements_of_outcomes (raws : List (List Char)) :
    (outcomesOf raws).filterMap LineOutcome.statement? = [textOf raws] := by
  have hnone : (List.replicate (raws.length - 1) LineOutcome.incomplete).filterMap
      LineOutcome.statement? = [] := by
    rw [List.filterMap_eq_nil_iff]
    intro outcome hmem
    rw [List.eq_of_mem_replicate hmem]
    rfl
  rw [outcomesOf, List.filterMap_append, hnone]
  rfl

theorem statements_of_typed (blocks : List (List (List Char))) :
    (blocks.flatMap outcomesOf).filterMap LineOutcome.statement? = blocks.map textOf := by
  induction blocks with
  | nil => rfl
  | cons raws blocks ih =>
      rw [List.flatMap_cons, List.filterMap_append, statements_of_outcomes, ih, List.map_cons,
        List.singleton_append]

theorem renders_parts (hspells : List.Forall₂ Part.Spells parts blocks) :
    Renders (parts.flatMap Part.sayings) blocks.flatten := by
  induction hspells with
  | nil => exact .nil
  | cons hfirst hrest ih =>
      rw [List.flatMap_cons, List.flatten_cons]
      exact hfirst.renders.append ih

theorem runEach_parts (hspells : List.Forall₂ Part.Spells parts blocks)
    (hblocks : ∀ raw ∈ blocks.flatten, '\n' ∉ raw) (available : List String)
    (value : Option Value) (scope : Scope) :
    (interpreter available).runEach (value.map Value.display) (blocks.map textOf) scope =
      conclude (inOrder Part.run value parts scope) := by
  -- The value so far is shown only when nothing is left to run.
  induction hspells generalizing value scope with
  | nil => rfl
  | @cons part raws parts blocks hfirst hrest ih =>
      rw [List.flatten_cons, List.forall_mem_append] at hblocks
      rw [List.map_cons, Interpreter.runEach, hfirst.run_textOf hblocks.1, inOrder, conclude,
        conclude, Dialogue.bind_assoc, Dialogue.bind_assoc]
      refine congrArg (Dialogue.bind (part.run scope)) (funext fun ended => ?_)
      obtain ⟨outcome, scope⟩ := ended
      cases outcome with
      | ok value => exact ih hblocks.2 value scope
      | error fault => rfl

/-- Typing a program is running it. Of the lines of a part, each but the last is incomplete, and
the last completes a statement; and the statements, run one after the other up to the first that
fails, make the same calls, leave the same scope and end in the same way as the whole text. -/
theorem typing_runs_program (available : List String) {code : String}
    (hspells : List.Forall₂ Part.Spells parts blocks)
    (hlines : Text.lines code.toList = blocks.flatten) :
    StatementBuffer.empty.pushAll ((Text.lines code.toList).map String.ofList) =
        (blocks.flatMap outcomesOf, .empty) ∧
      ∀ scope, (interpreter available).runEach none
          ((blocks.flatMap outcomesOf).filterMap LineOutcome.statement?) scope =
        (interpreter available).run code scope := by
  have hblocks : ∀ raw ∈ blocks.flatten, '\n' ∉ raw := by
    intro raw hmem
    rw [← hlines] at hmem
    exact Text.newline_notMem_of_mem_lines hmem
  constructor
  · rw [hlines, pushAll_parts hspells hblocks]
  · intro scope
    have hrenders : Renders (parts.flatMap Part.sayings) (Text.lines code.toList) := by
      rw [hlines]
      exact renders_parts hspells
    rw [statements_of_typed, run_of_items (items_of_renders hrenders), Item.runAll_parts]
    exact runEach_parts hspells hblocks available none scope

theorem typing_runs_program_of_branch :
    StatementBuffer.empty.pushAll ["n = 2 ", "if n:", "  print(n)", "else:", "\tpass", ""] =
      ([.statement "n = 2 \n", .incomplete, .incomplete, .incomplete, .incomplete,
        .statement "if n:\n  print(n)\nelse:\n\tpass\n\n"], .empty) ∧
    ∀ scope, (interpreter []).runEach none
        ["n = 2 \n", "if n:\n  print(n)\nelse:\n\tpass\n\n"] scope =
      (interpreter []).run "n = 2 \nif n:\r\n  print(n)\nelse:\n\tpass\n\n" scope := by
  let set : Statement := ⟨"n = 2".toList, by decide, by decide, by decide⟩
  let shown : Statement := ⟨"print(n)".toList, by decide, by decide, by decide⟩
  let block : Part := .branch ['n'] ⟨[shown], List.cons_ne_nil _ _⟩
    (some ⟨[.pass], List.cons_ne_nil _ _⟩)
  have hset : (Part.statement set).Spells ["n = 2 ".toList] := ⟨["n = 2 ".toList], by decide, rfl⟩
  have hblock : block.Spells ["if n:".toList, "  print(n)".toList, "else:".toList,
      "\tpass".toList, []] :=
    ⟨["if n:".toList, "  print(n)".toList, "else:".toList, "\tpass".toList], by decide, rfl⟩
  have hlines : Text.lines "n = 2 \nif n:\r\n  print(n)\nelse:\n\tpass\n\n".toList =
      [["n = 2 ".toList], ["if n:".toList, "  print(n)".toList, "else:".toList, "\tpass".toList,
        []]].flatten := by decide +kernel
  have h := typing_runs_program [] (.cons hset (.cons hblock .nil)) hlines
  rw [hlines] at h
  exact h

end Programs
end Script
end ScriptConsole
