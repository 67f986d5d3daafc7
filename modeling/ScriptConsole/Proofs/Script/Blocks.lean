import Mathlib.Data.List.Basic
import ScriptConsole.Proofs.Script.Grammar

/-!
Programs by their structure. However the statements and the `if` blocks of a program are spread
over the lines of a text, with blank lines and comments between them, the text runs as its
structure says; and a block that is out of order stops it where the block begins.
-/

namespace ScriptConsole.Script

/-! ### The structure of programs -/

/-- A statement on a line of its own. -/
structure Statement where
  text : List Char
  full : text ≠ []
  noComment : text.head? ≠ some '#'
  noHeader : text.getLast? ≠ some ':'

/-- The statements under a header. -/
structure Suite where
  statements : List Statement
  full : statements ≠ []

/-- A program is a list of parts. -/
inductive Part where
  | statement (statement : Statement)
  | branch (condition : List Char) (body : Suite) (orelse : Option Suite)

def ifHeader (condition : List Char) : List Char :=
  "if ".toList ++ (condition ++ [':'])

def elseHeader : List Char :=
  "else:".toList

theorem ifHeader_says (condition : List Char) :
    ifHeader condition ≠ [] ∧ (ifHeader condition).head? ≠ some '#' := by
  constructor <;> rintro ⟨⟩

theorem elseHeader_says : elseHeader ≠ [] ∧ elseHeader.head? ≠ some '#' := by
  constructor <;> rintro ⟨⟩

/-- What a line says without its outer blanks, and whether it is indented. -/
abbrev Saying : Type :=
  List Char × Bool

def Statement.sayings (statements : List Statement) : List Saying :=
  statements.map fun statement => (statement.text, true)

theorem Statement.sayings_say (statements : List Statement) :
    ∀ saying ∈ sayings statements, saying.1 ≠ [] ∧ saying.1.head? ≠ some '#' := by
  intro saying hsaying
  obtain ⟨statement, -, rfl⟩ := List.mem_map.mp hsaying
  exact ⟨statement.full, statement.noComment⟩

namespace Part

def orelseSayings : Option Suite → List Saying
  | none => []
  | some suite => (elseHeader, false) :: Statement.sayings suite.statements

def sayings : Part → List Saying
  | statement s => [(s.text, false)]
  | branch condition body orelse =>
      (ifHeader condition, false) :: (Statement.sayings body.statements ++ orelseSayings orelse)

theorem exists_sayings (part : Part) :
    ∃ text others, part.sayings = (text, false) :: others ∧ text ≠ elseHeader := by
  cases part with
  | statement s =>
      refine ⟨s.text, [], rfl, ?_⟩
      intro helse
      apply s.noHeader
      rw [helse]
      rfl
  | branch condition body orelse =>
      refine ⟨ifHeader condition, _, rfl, ?_⟩
      rintro ⟨⟩

theorem sayings_say (part : Part) :
    ∀ saying ∈ part.sayings, saying.1 ≠ [] ∧ saying.1.head? ≠ some '#' := by
  intro saying hsaying
  cases part with
  | statement s =>
      obtain rfl := List.mem_singleton.mp hsaying
      exact ⟨s.full, s.noComment⟩
  | branch condition body orelse =>
      rcases List.mem_cons.mp hsaying with rfl | hmore
      · exact ifHeader_says condition
      · rcases List.mem_append.mp hmore with hbody | helse
        · exact Statement.sayings_say _ saying hbody
        · cases orelse with
          | none => cases helse
          | some suite =>
              rcases List.mem_cons.mp helse with rfl | hsuite
              · exact elseHeader_says
              · exact Statement.sayings_say _ saying hsuite

end Part

/-! ### Texts of a program -/

/-- The line is blank or a comment. -/
def IsGap (raw : List Char) : Prop :=
  Text.trim raw = [] ∨ (Text.trim raw).head? = some '#'

/-- The lines of a text say this, with blank lines and comments anywhere between them. -/
inductive Renders : List Saying → List (List Char) → Prop where
  | nil : Renders [] []
  | gap {sayings : List Saying} {raw : List Char} {raws : List (List Char)} (hgap : IsGap raw)
      (h : Renders sayings raws) : Renders sayings (raw :: raws)
  | line {sayings : List Saying} {text raw : List Char} {raws : List (List Char)} {indented : Bool}
      (htext : Text.trim raw = text) (hindented : Text.startsBlank raw = indented)
      (h : Renders sayings raws) : Renders ((text, indented) :: sayings) (raw :: raws)

/-- The lines under the header with this number are not the statements of a block: there are
none, or one of them is a header itself. -/
inductive SpoiledSuite (header : Nat) : Fault → List (List Char) → Prop where
  | missing {gaps more : List (List Char)} (hgaps : Renders [] gaps)
      (hflush : ∀ raw ∈ more.head?, ¬ IsGap raw ∧ Text.startsBlank raw = false) :
      SpoiledSuite header (.missingBlock header) (gaps ++ more)
  | nested {statements : List Statement} {before more : List (List Char)} {raw : List Char}
      (hbefore : Renders (Statement.sayings statements) before) (hcontent : ¬ IsGap raw)
      (hindented : Text.startsBlank raw = true)
      (hheader : (Text.trim raw).getLast? = some ':') :
      SpoiledSuite header (.nestedBlock (header + before.length + 1)) (before ++ raw :: more)

/-- The lines under the header of an `if` block with this number are spoiled, or those under its
`else`. -/
inductive SpoiledBranch (header : Nat) (fault : Fault) : List (List Char) → Prop where
  | body {raws : List (List Char)} (h : SpoiledSuite header fault raws) :
      SpoiledBranch header fault raws
  | orelse {body : Suite} {between more : List (List Char)} {raw : List Char}
      (hbody : Renders (Statement.sayings body.statements) between)
      (helse : Text.trim raw = elseHeader) (hflush : Text.startsBlank raw = false)
      (h : SpoiledSuite (header + between.length + 1) fault more) :
      SpoiledBranch header fault (between ++ raw :: more)

/-! ### Running by structure -/

/-- What comes of a piece of a program: a result or a fault, and the scope that it leaves. -/
abbrev Passage (α : Type) : Type :=
  Dialogue (Except Fault α × Scope)

/-- Go on in the scope that is left, unless there was a fault. -/
def goOn {α β : Type} (next : α → Scope → Passage β) : Except Fault α × Scope → Passage β
  | (.ok a, scope) => next a scope
  | (.error fault, scope) => .done (.error fault, scope)

/-- Run pieces of a program one after the other, up to the first that fails. The value is that of
the last. -/
def inOrder {α : Type} (run : α → Scope → Passage (Option Value)) (value : Option Value) :
    List α → Scope → Passage (Option Value)
  | [], scope => .done (.ok value, scope)
  | piece :: pieces, scope =>
      (run piece scope).bind (goOn fun value scope => inOrder run value pieces scope)

def Statement.run (statement : Statement) (scope : Scope) : Passage (Option Value) :=
  (execute statement.text).run scope

/-- The value of a condition. -/
def evalCondition (condition : List Char) (scope : Scope) : Passage Value :=
  match Token.tokenize condition with
  | .error fault => .done (.error fault, scope)
  | .ok tokens => (Expression.evaluate scope tokens).run.bind fun result => .done (result, scope)

def Part.run : Part → Scope → Passage (Option Value)
  | statement s, scope => s.run scope
  | branch condition body orelse, scope =>
      (evalCondition condition scope).bind (goOn fun value scope =>
        let chosen := if value.isTruthy then body.statements else orelse.elim [] (·.statements)
        inOrder Statement.run none chosen scope)

def stop (fault : Fault) (scope : Scope) : Passage (Option Value) :=
  .done (.error fault, scope)

/-- What the host learns of a value or a fault. -/
def endingOf : Except Fault (Option Value) → Ending (Option String)
  | .ok value => .ok (value.map Value.display)
  | .error fault => .raised fault.toScriptError

/-- A program as it ends for the host. -/
def conclude (passage : Passage (Option Value)) : Dialogue (Ending (Option String) × Scope) :=
  passage.bind fun (result, scope) => .done (endingOf result, scope)

/-! ### Reading lines -/

namespace SourceLine

variable {number : Nat} {raw : List Char} {raws : List (List Char)}

def saying (line : SourceLine) : Saying :=
  (line.text, line.indented)

theorem readFrom_gap (hgap : IsGap raw) :
    readFrom number (raw :: raws) = readFrom (number + 1) raws := by
  have hnone : read? number raw = none := by
    rcases hgap with hblank | hcomment
    · simp only [read?, hblank, List.isEmpty_nil, Bool.true_or, if_true]
    · simp only [read?, hcomment, BEq.rfl, Bool.or_true, if_true]
  rw [readFrom, hnone]

theorem readFrom_line (hcontent : ¬ IsGap raw) : readFrom number (raw :: raws) =
    ⟨number, Text.trim raw, Text.startsBlank raw⟩ :: readFrom (number + 1) raws := by
  have hsome : read? number raw = some ⟨number, Text.trim raw, Text.startsBlank raw⟩ := by
    rw [IsGap, not_or] at hcontent
    rw [read?, if_neg]
    simp only [List.isEmpty_iff, Bool.or_eq_true, beq_iff_eq, not_or]
    exact hcontent
  rw [readFrom, hsome]

theorem exists_readFrom {sayings : List Saying} (h : Renders sayings raws)
    (hcontent : ∀ saying ∈ sayings, saying.1 ≠ [] ∧ saying.1.head? ≠ some '#') (number : Nat)
    (more : List (List Char)) :
    ∃ read, read.map saying = sayings ∧
      readFrom number (raws ++ more) = read ++ readFrom (number + raws.length) more := by
  induction h generalizing number with
  | nil => exact ⟨[], rfl, rfl⟩
  | gap hgap h ih =>
      obtain ⟨read, hread, hfrom⟩ := ih hcontent (number + 1)
      refine ⟨read, hread, ?_⟩
      rw [List.cons_append, readFrom_gap hgap, hfrom, List.length_cons, Nat.add_right_comm,
        Nat.add_assoc]
  | @line sayings text raw raws indented htext hindented h ih =>
      subst htext hindented
      obtain ⟨hfirst, hrest⟩ := List.forall_mem_cons.mp hcontent
      obtain ⟨read, hread, hfrom⟩ := ih hrest (number + 1)
      refine ⟨⟨number, Text.trim raw, Text.startsBlank raw⟩ :: read, ?_, ?_⟩
      · rw [List.map_cons, hread]
        rfl
      · rw [List.cons_append, readFrom_line (not_or.mpr hfirst), hfrom, List.length_cons,
          Nat.add_right_comm, Nat.add_assoc, List.cons_append]

theorem condition?_eq_some {line : SourceLine} {condition : List Char} :
    line.condition? = some condition ↔ line.text = ifHeader condition := by
  rw [condition?, Option.bind_eq_bind, Option.bind_eq_some_iff]
  constructor
  · rintro ⟨rest, hafter, hbefore⟩
    have hrest := List.append_eq_of_isPrefixOf?_eq_some hafter
    have hcondition := List.append_eq_of_isSuffixOf?_eq_some hbefore
    rw [← hrest, ← hcondition, ifHeader]
  · intro htext
    refine ⟨condition ++ [':'], ?_, List.isSuffixOf?_eq_some_iff_append_eq.mpr rfl⟩
    exact List.isPrefixOf?_eq_some_iff_append_eq.mpr htext.symm

theorem getLast?_ifHeader (condition : List Char) : (ifHeader condition).getLast? = some ':' := by
  rw [ifHeader, ← List.append_assoc, List.getLast?_concat]

end SourceLine

/-! ### Reading items -/

namespace Item

variable {header : Nat} {suite : Suite} {body rest : List SourceLine}

/-- No line of a block comes next. -/
def IsFlush (rest : List SourceLine) : Prop :=
  ∀ line ∈ rest.head?, line.indented = false

theorem takeWhile_indented {statements : List Statement}
    (hbody : body.map SourceLine.saying = Statement.sayings statements) (rest : List SourceLine) :
    (body ++ rest).takeWhile (·.indented) = body ++ rest.takeWhile (·.indented) ∧
      (body ++ rest).dropWhile (·.indented) = rest.dropWhile (·.indented) ∧
      body.find? (·.isHeader) = none ∧ body.map (·.text) = statements.map (·.text) := by
  induction statements generalizing body with
  | nil =>
      obtain rfl : body = [] := List.map_eq_nil_iff.mp hbody
      exact ⟨rfl, rfl, rfl, rfl⟩
  | cons statement statements ih =>
      obtain ⟨line, body, rfl, hline, hrest⟩ := List.map_eq_cons_iff.mp hbody
      obtain ⟨htake, hdrop, hfind, htexts⟩ := ih hrest
      obtain ⟨htext, hindented⟩ : line.text = statement.text ∧ line.indented = true :=
        Prod.mk.inj hline
      have hheader : line.isHeader = false := by
        rw [SourceLine.isHeader, htext]
        exact beq_false_of_ne statement.noHeader
      refine ⟨?_, ?_, ?_, ?_⟩
      · rw [List.cons_append, List.takeWhile_cons_of_pos hindented, htake, List.cons_append]
      · rw [List.cons_append, List.dropWhile_cons_of_pos hindented, hdrop]
      · rw [List.find?_cons_of_neg (by rw [hheader]; exact Bool.false_ne_true), hfind]
      · rw [List.map_cons, List.map_cons, htexts, htext]

theorem IsFlush.takeWhile (h : IsFlush rest) : rest.takeWhile (·.indented) = [] := by
  cases rest with
  | nil => rfl
  | cons line rest =>
      exact List.takeWhile_cons_of_neg (by rw [h line rfl]; exact Bool.false_ne_true)

theorem IsFlush.dropWhile (h : IsFlush rest) : rest.dropWhile (·.indented) = rest := by
  cases rest with
  | nil => rfl
  | cons line rest =>
      exact List.dropWhile_cons_of_neg (by rw [h line rfl]; exact Bool.false_ne_true)

theorem block_suite (hbody : body.map SourceLine.saying = Statement.sayings suite.statements)
    (hflush : IsFlush rest) :
    block header (body ++ rest) = .ok (suite.statements.map (·.text), rest) := by
  obtain ⟨htake, hdrop, hfind, htexts⟩ := takeWhile_indented hbody rest
  have hfull : body.isEmpty = false := by
    rw [List.isEmpty_eq_false_iff]
    rintro rfl
    exact suite.full (List.map_eq_nil_iff.mp hbody.symm)
  rw [block, htake, hflush.takeWhile, List.append_nil, hfind, hdrop, hflush.dropWhile, hfull,
    htexts]
  rfl

theorem block_nested {statements : List Statement} {line : SourceLine}
    (hbody : body.map SourceLine.saying = Statement.sayings statements)
    (hindented : line.indented = true) (hheader : line.isHeader = true) :
    block header (body ++ line :: rest) = .error (.nestedBlock line.number) := by
  obtain ⟨htake, -, hfind, -⟩ := takeWhile_indented hbody (line :: rest)
  rw [block, htake, List.takeWhile_cons_of_pos hindented, List.find?_append, hfind,
    Option.none_or, List.find?_cons_of_pos hheader]

theorem block_spoiled {fault : Fault} {raws : List (List Char)}
    (h : SpoiledSuite header fault raws) :
    block header (SourceLine.readFrom (header + 1) raws) = .error fault := by
  cases h with
  | @missing gaps more hgaps hmore =>
      obtain ⟨read, hread, hfrom⟩ :=
        SourceLine.exists_readFrom hgaps (by rintro _ ⟨⟩) (header + 1) more
      obtain rfl : read = [] := List.map_eq_nil_iff.mp hread
      have hflush : IsFlush (SourceLine.readFrom (header + 1 + gaps.length) more) := by
        cases more with
        | nil => rintro _ ⟨⟩
        | cons raw more =>
            obtain ⟨hcontent, hstart⟩ := hmore raw rfl
            rw [SourceLine.readFrom_line hcontent]
            rintro _ ⟨⟩
            exact hstart
      rw [hfrom, List.nil_append, block, hflush.takeWhile]
      rfl
  | @nested statements before more raw hbefore hcontent hindented hheader =>
      obtain ⟨read, hread, hfrom⟩ := SourceLine.exists_readFrom hbefore
        (Statement.sayings_say statements) (header + 1) (raw :: more)
      rw [hfrom, SourceLine.readFrom_line hcontent, Nat.add_right_comm header before.length 1]
      exact block_nested hread hindented (beq_iff_eq.mpr hheader)

theorem elseBlock_none (hrest : ∀ line ∈ rest.head?, line.isElse = false) :
    elseBlock rest = .ok ([], rest) := by
  cases rest with
  | nil => rfl
  | cons line rest => rw [elseBlock, hrest line rfl, if_neg Bool.false_ne_true]

theorem isElse_of_text {line : SourceLine} (htext : line.text = elseHeader)
    (hflush : line.indented = false) : line.isElse = true := by
  rw [SourceLine.isElse, htext, hflush]
  rfl

/-- Nothing that belongs to the part before comes next. -/
structure Separates (rest : List SourceLine) : Prop where
  flush : IsFlush rest
  noElse : ∀ line ∈ rest.head?, line.isElse = false

theorem ofLines_simple {line : SourceLine} (hflush : line.indented = false)
    (hheader : line.text.getLast? ≠ some ':') :
    ofLines (line :: rest) = .simple line.text :: ofLines rest := by
  have hcondition : line.condition? = none := by
    rw [Option.eq_none_iff_forall_ne_some]
    intro condition hsome
    rw [SourceLine.condition?_eq_some.mp hsome, SourceLine.getLast?_ifHeader] at hheader
    exact hheader rfl
  rw [ofLines, hflush, hcondition, SourceLine.isHeader, beq_false_of_ne hheader]
  rfl

theorem ofLines_branch {line : SourceLine} {condition : List Char} {texts texts' : List (List Char)}
    {between rest' : List SourceLine} (hflush : line.indented = false)
    (htext : line.text = ifHeader condition)
    (hblock : block line.number rest = .ok (texts, between))
    (helse : elseBlock between = .ok (texts', rest')) :
    ofLines (line :: rest) = .branch condition texts texts' :: ofLines rest' := by
  rw [ofLines, hflush, SourceLine.condition?_eq_some.mpr htext]
  simp only [Bool.false_eq_true, if_false]
  split
  · next fault herror => cases hblock.symm.trans herror
  · next texts between hok =>
      cases hblock.symm.trans hok
      split
      · next fault herror => cases helse.symm.trans herror
      · next texts' rest' hok =>
          cases helse.symm.trans hok
          rfl

theorem ofLines_spoiled_body {line : SourceLine} {condition : List Char} {fault : Fault}
    (hflush : line.indented = false) (htext : line.text = ifHeader condition)
    (hblock : block line.number rest = .error fault) :
    ofLines (line :: rest) = [.malformed fault] := by
  rw [ofLines, hflush, SourceLine.condition?_eq_some.mpr htext]
  simp only [Bool.false_eq_true, if_false]
  split
  · next fault' herror =>
      cases hblock.symm.trans herror
      rfl
  · next texts between hok => cases hblock.symm.trans hok

theorem ofLines_spoiled_orelse {line : SourceLine} {condition : List Char} {fault : Fault}
    {texts : List (List Char)} {between : List SourceLine} (hflush : line.indented = false)
    (htext : line.text = ifHeader condition)
    (hblock : block line.number rest = .ok (texts, between))
    (helse : elseBlock between = .error fault) :
    ofLines (line :: rest) = [.malformed fault] := by
  rw [ofLines, hflush, SourceLine.condition?_eq_some.mpr htext]
  simp only [Bool.false_eq_true, if_false]
  split
  · next fault' herror => cases hblock.symm.trans herror
  · next texts between hok =>
      cases hblock.symm.trans hok
      split
      · next fault' herror =>
          cases helse.symm.trans herror
          rfl
      · next texts' rest' hok => cases helse.symm.trans hok

/-- The item that a part is read as. -/
def ofPart : Part → Item
  | .statement s => .simple s.text
  | .branch condition body orelse =>
      .branch condition (body.statements.map (·.text))
        ((orelse.elim [] (·.statements)).map (·.text))

theorem separates_nil : Separates [] := by
  constructor <;> rintro _ ⟨⟩

theorem separates_cons {line : SourceLine} (htext : line.text ≠ elseHeader)
    (hflush : line.indented = false) (rest : List SourceLine) : Separates (line :: rest) := by
  constructor
  · rintro _ ⟨⟩
    exact hflush
  · rintro _ ⟨⟩
    rw [SourceLine.isElse, Bool.and_eq_false_iff]
    exact .inr (beq_false_of_ne htext)

theorem separates_part {part : Part} {read : List SourceLine}
    (hread : read.map SourceLine.saying = part.sayings) (rest : List SourceLine) :
    Separates (read ++ rest) := by
  obtain ⟨text, others, hsayings, htext⟩ := part.exists_sayings
  rw [hsayings] at hread
  obtain ⟨line, more, rfl, hline, -⟩ := List.map_eq_cons_iff.mp hread
  obtain ⟨rfl, hflush⟩ : line.text = text ∧ line.indented = false := Prod.mk.inj hline
  exact separates_cons htext hflush (more ++ rest)

theorem ofLines_part {part : Part} {read : List SourceLine}
    (hread : read.map SourceLine.saying = part.sayings) (hrest : Separates rest) :
    ofLines (read ++ rest) = ofPart part :: ofLines rest := by
  cases part with
  | statement s =>
      obtain ⟨line, rfl, hline⟩ := List.map_eq_singleton_iff.mp hread
      obtain ⟨htext, hflush⟩ : line.text = s.text ∧ line.indented = false := Prod.mk.inj hline
      rw [List.singleton_append, ofLines_simple hflush (htext ▸ s.noHeader), htext, ofPart]
  | branch condition body orelse =>
      obtain ⟨line, lines, rfl, hline, hlines⟩ := List.map_eq_cons_iff.mp hread
      obtain ⟨htext, hflush⟩ : line.text = ifHeader condition ∧ line.indented = false :=
        Prod.mk.inj hline
      obtain ⟨read, between, rfl, hbody, hbetween⟩ := List.map_eq_append_iff.mp hlines
      rw [List.cons_append, List.append_assoc]
      cases orelse with
      | none =>
          obtain rfl : between = [] := List.map_eq_nil_iff.mp hbetween
          exact ofLines_branch hflush htext (block_suite hbody hrest.flush)
            (elseBlock_none hrest.noElse)
      | some suite =>
          obtain ⟨header, more, rfl, hheader, hmore⟩ := List.map_eq_cons_iff.mp hbetween
          obtain ⟨helse, hstart⟩ : header.text = elseHeader ∧ header.indented = false :=
            Prod.mk.inj hheader
          refine ofLines_branch hflush htext (block_suite hbody ?_) ?_
          · rintro _ ⟨⟩
            exact hstart
          · rw [List.cons_append, elseBlock, if_pos (isElse_of_text helse hstart)]
            exact block_suite hmore hrest.flush

theorem ofLines_parts {parts : List Part} {read : List SourceLine}
    (hread : read.map SourceLine.saying = parts.flatMap Part.sayings) (hrest : Separates rest) :
    ofLines (read ++ rest) = parts.map ofPart ++ ofLines rest := by
  induction parts generalizing read with
  | nil =>
      obtain rfl : read = [] := List.map_eq_nil_iff.mp hread
      rfl
  | cons part parts ih =>
      rw [List.flatMap_cons] at hread
      obtain ⟨first, more, rfl, hfirst, hmore⟩ := List.map_eq_append_iff.mp hread
      have hnext : Separates (more ++ rest) := by
        cases parts with
        | nil =>
            obtain rfl : more = [] := List.map_eq_nil_iff.mp hmore
            exact hrest
        | cons next parts =>
            rw [List.flatMap_cons] at hmore
            obtain ⟨second, others, rfl, hsecond, -⟩ := List.map_eq_append_iff.mp hmore
            rw [List.append_assoc]
            exact separates_part hsecond _
      rw [List.append_assoc, ofLines_part hfirst hnext, ih hmore, List.map_cons, List.cons_append]

theorem ofLines_spoiled {line : SourceLine} {condition : List Char} {fault : Fault}
    {raws : List (List Char)} (hflush : line.indented = false)
    (htext : line.text = ifHeader condition)
    (h : SpoiledBranch line.number fault raws) :
    ofLines (line :: SourceLine.readFrom (line.number + 1) raws) = [.malformed fault] := by
  cases h with
  | body h => exact ofLines_spoiled_body hflush htext (block_spoiled h)
  | @orelse body between more raw hbody helse hstart h =>
      obtain ⟨read, hread, hfrom⟩ := SourceLine.exists_readFrom hbody
        (Statement.sayings_say _) (line.number + 1) (raw :: more)
      have hcontent : ¬ IsGap raw := by
        rw [IsGap, helse, not_or]
        exact elseHeader_says
      rw [hfrom, SourceLine.readFrom_line hcontent]
      refine ofLines_spoiled_orelse hflush htext (block_suite hread ?_) ?_
      · rintro _ ⟨⟩
        exact hstart
      · rw [elseBlock, if_pos (isElse_of_text helse hstart),
          Nat.add_right_comm line.number 1]
        exact block_spoiled h

end Item

/-! ### Running items -/

theorem run_bind {α β : Type} (script : Running α) (f : α → Running β) (scope : Scope) :
    (script >>= f).run scope = (script.run scope).bind (goOn fun a scope => (f a).run scope) := by
  refine congrArg (Dialogue.bind (script.run scope)) (funext fun ended => ?_)
  obtain ⟨outcome, scope⟩ := ended
  cases outcome <;> rfl

theorem executeAll_run (value : Option Value) (statements : List Statement) (scope : Scope) :
    (executeAll value (statements.map (·.text))).run scope =
      inOrder Statement.run value statements scope := by
  induction statements generalizing value scope with
  | nil => rfl
  | cons statement statements ih =>
      rw [List.map_cons, executeAll, run_bind, inOrder, Statement.run]
      simp only [ih]

theorem evalCondition_eq (condition : List Char) (scope : Scope) :
    (observe fun scope => do
      Expression.evaluate scope (← Expression.pass (Token.tokenize condition))).run scope =
        evalCondition condition scope := by
  rw [evalCondition]
  cases Token.tokenize condition <;> rfl

namespace Item

theorem run_ofPart (part : Part) (scope : Scope) :
    (ofPart part).run.run scope = part.run scope := by
  cases part with
  | statement s => rfl
  | branch condition body orelse =>
      rw [ofPart, Item.run, run_bind, evalCondition_eq, Part.run]
      congr 2
      funext value scope
      cases value.isTruthy with
      | true => exact executeAll_run none body.statements scope
      | false => exact executeAll_run none (orelse.elim [] (·.statements)) scope

theorem runAll_parts (value : Option Value) (parts : List Part) (scope : Scope) :
    (runAll value (parts.map ofPart)).run scope = inOrder Part.run value parts scope := by
  induction parts generalizing value scope with
  | nil => rfl
  | cons part parts ih =>
      rw [List.map_cons, runAll, run_bind, inOrder, run_ofPart]
      simp only [ih]

theorem runAll_spoiled (value : Option Value) (parts : List Part) (fault : Fault) (scope : Scope) :
    (runAll value (parts.map ofPart ++ [.malformed fault])).run scope =
      (inOrder Part.run value parts scope).bind (goOn fun _ => stop fault) := by
  induction parts generalizing value scope with
  | nil => rfl
  | cons part parts ih =>
      rw [List.map_cons, List.cons_append, runAll, run_bind, inOrder, run_ofPart,
        Dialogue.bind_assoc]
      refine congrArg (Dialogue.bind (part.run scope)) (funext fun ended => ?_)
      obtain ⟨outcome, scope⟩ := ended
      cases outcome with
      | ok value => exact ih value scope
      | error earlier => rfl

end Item

/-! ### Running texts -/

/-- A statement that has no value. -/
def Statement.IsSilent (statement : Statement) : Prop :=
  statement.text = "pass".toList ∨ isImport statement.text = true ∨
    ∃ name tokens, Token.tokenize statement.text = .ok (.name name :: .assign :: tokens)

/-- However the host answers, the piece gives a result of this kind, if it does not fail. -/
def Leads {α : Type} (passage : Passage α) (P : α → Prop) : Prop :=
  passage.Ends fun ended => ∀ a, ended.1 = .ok a → P a

theorem leads_throw {α : Type} {P : α → Prop} (fault : Fault) (scope : Scope) :
    Leads ((throw fault : Running α).run scope) P := by
  rintro _ ⟨⟩

theorem leads_bind {α β : Type} {P : β → Prop} {script : Running α} {f : α → Running β}
    {scope : Scope} (h : ∀ a scope, Leads ((f a).run scope) P) :
    Leads ((script >>= f).run scope) P := by
  rw [run_bind]
  refine Dialogue.Ends.bind (Dialogue.ends_of_forall (fun _ => trivial) _) fun ended _ => ?_
  obtain ⟨outcome, scope⟩ := ended
  cases outcome with
  | ok a => exact h a scope
  | error fault => rintro _ ⟨⟩

theorem Statement.IsSilent.leads {statement : Statement} (h : statement.IsSilent) (scope : Scope) :
    Leads (statement.run scope) (· = none) := by
  have hnone {scope : Scope} : Leads ((return none : Running (Option Value)).run scope)
      (· = none) := by
    rintro _ ⟨⟩
    rfl
  rw [Statement.run, execute]
  split
  · exact hnone
  · next hpass =>
    split
    · exact leads_bind fun _ _ => hnone
    · next himport =>
      obtain ⟨name, tokens, htokens⟩ := (h.resolve_left hpass).resolve_left himport
      have hread : (observe fun _ => Expression.pass (Token.tokenize statement.text)).run scope =
          .done (.ok (.name name :: .assign :: tokens), scope) := by
        rw [htokens]
        rfl
      rw [run_bind, hread, Dialogue.done_bind, goOn]
      split
      · refine leads_bind fun value scope => ?_
        split
        · exact leads_throw _ scope
        · exact leads_throw _ scope
      · exact leads_bind fun value scope => leads_bind fun _ _ => hnone
      · next hraise hassign => cases hassign _ _ rfl

theorem run_of_items {available : List String} {code : String} {items : List Item}
    (hitems : Item.ofLines (SourceLine.ofText code) = items) (scope : Scope) :
    (interpreter available).run code scope =
      conclude ((Item.runAll none items).run scope) := by
  show (((runCode code).run scope).bind _ : Dialogue _) = _
  rw [runCode, hitems, run_bind, Dialogue.bind_assoc, conclude]
  refine congrArg (Dialogue.bind _) (funext fun ended => ?_)
  obtain ⟨outcome, scope⟩ := ended
  cases outcome <;> rfl

theorem sayings_of_parts (parts : List Part) :
    ∀ saying ∈ parts.flatMap Part.sayings, saying.1 ≠ [] ∧ saying.1.head? ≠ some '#' := by
  intro saying hsaying
  obtain ⟨part, -, hpart⟩ := List.mem_flatMap.mp hsaying
  exact part.sayings_say saying hpart

/-- A text whose lines are those of a program, with blank lines and comments anywhere, is read as
the items of the program. -/
theorem items_of_renders {code : String} {parts : List Part}
    (h : Renders (parts.flatMap Part.sayings) (Text.lines code.toList)) :
    Item.ofLines (SourceLine.ofText code) = parts.map Item.ofPart := by
  obtain ⟨read, hread, hfrom⟩ :=
    SourceLine.exists_readFrom h (sayings_of_parts parts) 1 []
  rw [List.append_nil] at hfrom
  rw [SourceLine.ofText, hfrom, SourceLine.readFrom, Item.ofLines_parts hread Item.separates_nil,
    Item.ofLines, List.append_nil]

theorem items_of_spoiled {code : String} {parts : List Part} {before after : List (List Char)}
    {raw condition : List Char} {fault : Fault}
    (hlines : Text.lines code.toList = before ++ raw :: after)
    (h : Renders (parts.flatMap Part.sayings) before) (hif : Text.trim raw = ifHeader condition)
    (hflush : Text.startsBlank raw = false)
    (hspoiled : SpoiledBranch (before.length + 1) fault after) :
    Item.ofLines (SourceLine.ofText code) = parts.map Item.ofPart ++ [.malformed fault] := by
  obtain ⟨read, hread, hfrom⟩ := SourceLine.exists_readFrom h (sayings_of_parts parts)
    1 (raw :: after)
  have hcontent : ¬ IsGap raw := by
    rw [IsGap, hif, not_or]
    exact ifHeader_says condition
  have hother : Text.trim raw ≠ elseHeader := by
    rw [hif]
    rintro ⟨⟩
  rw [SourceLine.ofText, hlines, hfrom, SourceLine.readFrom_line hcontent, Nat.add_comm 1,
    Item.ofLines_parts hread (Item.separates_cons hother hflush _),
    Item.ofLines_spoiled hflush hif hspoiled]

theorem run_of_statement {available : List String} {code : String} {statement : Statement}
    (h : Renders [(statement.text, false)] (Text.lines code.toList)) (scope : Scope) :
    (interpreter available).run code scope = conclude (statement.run scope) := by
  have hitems := @items_of_renders code [.statement statement] h
  have hlast : (goOn fun value scope => inOrder Part.run value [] scope) =
      (Dialogue.done : _ → Passage (Option Value)) := by
    funext ended
    obtain ⟨outcome, scope⟩ := ended
    cases outcome <;> rfl
  rw [run_of_items hitems, Item.runAll_parts, inOrder, hlast, Dialogue.bind_done, Part.run]

/-- A text runs as the structure of its program says. Its parts run in their order, a condition is
evaluated once and then only the chosen statements run, the first fault ends the text and leaves
what was done before, and the result is the value of the last statement; statements that import,
assign or pass have none. When a block is spoiled, the parts before it run, and nothing of the
block itself does. -/
theorem program_runs_by_structure (available : List String) (code : String) (parts : List Part)
    (scope : Scope) :
    (Renders (parts.flatMap Part.sayings) (Text.lines code.toList) →
      (interpreter available).run code scope = conclude (inOrder Part.run none parts scope)) ∧
    (∀ before raw after condition fault, Text.lines code.toList = before ++ raw :: after →
      Renders (parts.flatMap Part.sayings) before → Text.trim raw = ifHeader condition →
      Text.startsBlank raw = false → SpoiledBranch (before.length + 1) fault after →
      (interpreter available).run code scope =
        conclude ((inOrder Part.run none parts scope).bind (goOn fun _ => stop fault))) ∧
    ∀ statement : Statement, statement.IsSilent →
      ∀ scope, Leads (statement.run scope) (· = none) := by
  refine ⟨fun h => ?_, ?_, fun statement hsilent => hsilent.leads⟩
  · rw [run_of_items (items_of_renders h), Item.runAll_parts]
  · intro before raw after condition fault hlines h hif hflush hspoiled
    rw [run_of_items (items_of_spoiled hlines h hif hflush hspoiled), Item.runAll_spoiled]

def Statement.pass : Statement :=
  ⟨"pass".toList, by decide, by decide, by decide⟩

theorem program_runs_by_structure_of_pass :
    (interpreter []).run "# note\npass\n\nif 1:\n\n  pass\n" ⟨[], [], []⟩ =
      .done (.ok none, ⟨[], [], []⟩) ∧
    (interpreter []).run "pass\nif 1:\n# none\n" ⟨[], [], []⟩ = .done
      (.raised ⟨"IndentationError", "expected an indented block after line 2"⟩, ⟨[], [], []⟩) ∧
    Leads (Statement.pass.run ⟨[], [], []⟩) (· = none) := by
  have hpass : (Part.statement .pass).run ⟨[], [], []⟩ = .done (.ok none, ⟨[], [], []⟩) := rfl
  refine ⟨?_, ?_, (program_runs_by_structure [] "" [] ⟨[], [], []⟩).2.2 .pass (.inl rfl) _⟩
  · let block : Part := .branch ['1'] ⟨[.pass], List.cons_ne_nil _ _⟩ none
    have hblock : block.run ⟨[], [], []⟩ = .done (.ok none, ⟨[], [], []⟩) := by
      have htokens : Token.tokenize ['1'] = .ok [.int 1] := by with_unfolding_all rfl
      have hvalue : Expression.evaluate ⟨[], [], []⟩ [.int 1] = pure (.int 1) :=
        Expression.evaluate_tokens (.sum (.terms (.int 1) .none))
      rw [Part.run, evalCondition, htokens]
      simp only [hvalue]
      rfl
    have hlines : Text.lines "# note\npass\n\nif 1:\n\n  pass\n".toList = ["# note".toList,
        "pass".toList, [], "if 1:".toList, [], "  pass".toList] := by decide +kernel
    have hrenders : Renders ([Part.statement .pass, block].flatMap Part.sayings)
        (Text.lines "# note\npass\n\nif 1:\n\n  pass\n".toList) := by
      rw [hlines]
      exact .gap (.inr (by decide)) (.line rfl rfl (.gap (.inl rfl) (.line rfl rfl
        (.gap (.inl rfl) (.line rfl rfl .nil)))))
    rw [(program_runs_by_structure [] _ [.statement .pass, block] ⟨[], [], []⟩).1 hrenders,
      inOrder, hpass, Dialogue.done_bind, goOn, inOrder, hblock]
    rfl
  · have hlines : Text.lines "pass\nif 1:\n# none\n".toList =
        ["pass".toList] ++ "if 1:".toList :: ["# none".toList] := by decide +kernel
    have hspoiled : SpoiledSuite 2 (.missingBlock 2) (["# none".toList] ++ []) :=
      .missing (.gap (.inr (by decide)) .nil) (by rintro _ ⟨⟩)
    rw [(program_runs_by_structure [] _ [.statement .pass] ⟨[], [], []⟩).2.1 _ _ _ ['1'] _ hlines
      (.line rfl rfl .nil) rfl rfl (.body hspoiled), inOrder, hpass]
    rfl

end ScriptConsole.Script
