import Mathlib.Data.List.Forall2
import ScriptConsole.Proofs.Script.Remarks

/-!
Programs with comments behind their statements. A program that goes well goes the same way, call
by call, when comments are put behind statements that bear them. Headers of blocks bear none.
-/

namespace ScriptConsole

/-- One call of a host service and what came of it. -/
inductive Exchange where
  | stdout (text : String) (answer : Except HostError Unit)
  | stderr (text : String) (answer : Except HostError Unit)
  | stdin (prompt : Option String) (answer : Except HostError String)

namespace Dialogue

variable {α β : Type}

/-- Under a host that answers so, the dialogue makes these calls and has this result. -/
inductive Plays : Dialogue α → List Exchange → α → Prop where
  | done (result : α) : Plays (.done result) [] result
  | stdout {text : String} {next : Except HostError Unit → Dialogue α} {log : List Exchange}
      {result : α} (answer : Except HostError Unit) (h : Plays (next answer) log result) :
      Plays (.stdout text next) (.stdout text answer :: log) result
  | stderr {text : String} {next : Except HostError Unit → Dialogue α} {log : List Exchange}
      {result : α} (answer : Except HostError Unit) (h : Plays (next answer) log result) :
      Plays (.stderr text next) (.stderr text answer :: log) result
  | stdin {prompt : Option String} {next : Except HostError String → Dialogue α}
      {log : List Exchange} {result : α} (answer : Except HostError String)
      (h : Plays (next answer) log result) :
      Plays (.stdin prompt next) (.stdin prompt answer :: log) result

variable {dialogue : Dialogue α} {f : α → Dialogue β} {a : α} {b : β} {log : List Exchange}

theorem Plays.bind {first second : List Exchange} (h : dialogue.Plays first a)
    (hnext : (f a).Plays second b) : (dialogue.bind f).Plays (first ++ second) b := by
  induction h with
  | done a => exact hnext
  | stdout answer _ ih => exact .stdout answer (ih hnext)
  | stderr answer _ ih => exact .stderr answer (ih hnext)
  | stdin answer _ ih => exact .stdin answer (ih hnext)

theorem exists_plays_of_bind (h : (dialogue.bind f).Plays log b) :
    ∃ first second a, log = first ++ second ∧ dialogue.Plays first a ∧
      (f a).Plays second b := by
  induction dialogue generalizing log with
  | done a => exact ⟨[], log, a, rfl, .done a, h⟩
  | stdout text next ih =>
      cases h with
      | stdout answer h =>
          obtain ⟨first, second, a, rfl, hfirst, hsecond⟩ := ih answer h
          exact ⟨_ :: first, second, a, rfl, .stdout answer hfirst, hsecond⟩
  | stderr text next ih =>
      cases h with
      | stderr answer h =>
          obtain ⟨first, second, a, rfl, hfirst, hsecond⟩ := ih answer h
          exact ⟨_ :: first, second, a, rfl, .stderr answer hfirst, hsecond⟩
  | stdin prompt next ih =>
      cases h with
      | stdin answer h =>
          obtain ⟨first, second, a, rfl, hfirst, hsecond⟩ := ih answer h
          exact ⟨_ :: first, second, a, rfl, .stdin answer hfirst, hsecond⟩

end Dialogue

namespace Script

/-! ### Scripts that go the same way -/

/-- Whenever the first script goes well, the second one goes the same way, call by call. -/
def Imitates {α : Type} (script script' : Running α) : Prop :=
  ∀ scope log a scope', (script.run scope).Plays log (.ok a, scope') →
    (script'.run scope).Plays log (.ok a, scope')

variable {α β : Type}

theorem Imitates.refl (script : Running α) : Imitates script script :=
  fun _ _ _ _ h => h

theorem imitates_of_fault {script : Running α}
    (h : ∃ fault, ∀ scope, script.run scope = .done (.error fault, scope))
    (script' : Running α) : Imitates script script' := by
  obtain ⟨fault, hfault⟩ := h
  intro scope log a scope' hplays
  rw [hfault] at hplays
  cases hplays

theorem Imitates.bind {script script' : Running α} {f f' : α → Running β}
    (h : Imitates script script') (hnext : ∀ a, Imitates (f a) (f' a)) :
    Imitates (script >>= f) (script' >>= f') := by
  intro scope log b scope' hplays
  rw [run_bind] at hplays ⊢
  obtain ⟨first, second, ⟨outcome, between⟩, rfl, hfirst, hsecond⟩ :=
    Dialogue.exists_plays_of_bind hplays
  cases outcome with
  | error fault => cases hsecond
  | ok a => exact (h scope first a between hfirst).bind (hnext a between second b scope' hsecond)

/-! ### Lines and items -/

/-- Neither text is the header of a block, and the second does what the first does. -/
inductive Alike (text : List Char) : List Char → Prop where
  | same : Alike text text
  | statement {text' : List Char} (hheader : text.getLast? ≠ some ':')
      (hheader' : text'.getLast? ≠ some ':') (h : Imitates (execute text) (execute text')) :
      Alike text text'

theorem Alike.imitates {text text' : List Char} (h : Alike text text') :
    Imitates (execute text) (execute text') := by
  cases h with
  | same => exact .refl _
  | statement _ _ h => exact h

theorem Alike.eq_or {text text' : List Char} (h : Alike text text') :
    text' = text ∨ (text.getLast? ≠ some ':' ∧ text'.getLast? ≠ some ':') := by
  cases h with
  | same => exact .inl rfl
  | statement hheader hheader' _ => exact .inr ⟨hheader, hheader'⟩

theorem imitates_executeAll {texts texts' : List (List Char)} (h : List.Forall₂ Alike texts texts')
    (last : Option Value) : Imitates (executeAll last texts) (executeAll last texts') := by
  induction h generalizing last with
  | nil => exact .refl _
  | cons htext _ ih =>
      rw [executeAll, executeAll]
      exact htext.imitates.bind fun value => ih value

namespace Item

inductive Like : Item → Item → Prop where
  | simple {text text' : List Char} (h : Alike text text') : Like (.simple text) (.simple text')
  | branch {condition : List Char} {body body' orelse orelse' : List (List Char)}
      (hbody : List.Forall₂ Alike body body') (horelse : List.Forall₂ Alike orelse orelse') :
      Like (.branch condition body orelse) (.branch condition body' orelse')
  | malformed {fault : Fault} : Like (.malformed fault) (.malformed fault)

theorem Like.imitates {item item' : Item} (h : Like item item') : Imitates item.run item'.run := by
  cases h with
  | simple h => exact h.imitates
  | malformed => exact .refl _
  | branch hbody horelse =>
      apply Imitates.bind (.refl _)
      intro value
      cases value.isTruthy with
      | true => exact imitates_executeAll hbody none
      | false => exact imitates_executeAll horelse none

theorem imitates_runAll {items items' : List Item} (h : List.Forall₂ Like items items')
    (last : Option Value) : Imitates (runAll last items) (runAll last items') := by
  induction h generalizing last with
  | nil => exact .refl _
  | cons hitem _ ih =>
      rw [runAll, runAll]
      exact hitem.imitates.bind fun value => ih value

end Item

/-- Two lines in the same place. -/
structure SourceLine.Like (line line' : SourceLine) : Prop where
  number : line'.number = line.number
  indented : line'.indented = line.indented
  text : Alike line.text line'.text

namespace SourceLine.Like

variable {line line' : SourceLine}

theorem isHeader (h : line.Like line') : line'.isHeader = line.isHeader := by
  rcases h.text.eq_or with heq | ⟨hheader, hheader'⟩
  · rw [SourceLine.isHeader, SourceLine.isHeader, heq]
  · rw [SourceLine.isHeader, SourceLine.isHeader, beq_false_of_ne hheader,
      beq_false_of_ne hheader']

theorem isElse (h : line.Like line') : line'.isElse = line.isElse := by
  rw [SourceLine.isElse, SourceLine.isElse, h.indented]
  rcases h.text.eq_or with heq | ⟨hheader, hheader'⟩
  · rw [heq]
  · have hother {text : List Char} (h : text.getLast? ≠ some ':') :
        (text == "else:".toList) = false := by
      apply beq_false_of_ne
      rintro rfl
      exact h rfl
    rw [hother hheader, hother hheader']

theorem text_eq (h : line.Like line') {condition : List Char}
    (htext : line.text = ifHeader condition) : line'.text = ifHeader condition := by
  rcases h.text.eq_or with heq | ⟨hheader, -⟩
  · exact heq.trans htext
  · rw [htext, SourceLine.getLast?_ifHeader] at hheader
    exact absurd rfl hheader

theorem condition? (h : line.Like line') : line'.condition? = line.condition? := by
  cases hcondition : line.condition? with
  | some condition =>
      exact SourceLine.condition?_eq_some.mpr
        (h.text_eq (SourceLine.condition?_eq_some.mp hcondition))
  | none =>
      rw [Option.eq_none_iff_forall_ne_some] at hcondition ⊢
      intro condition hsome
      apply hcondition condition
      have htext := SourceLine.condition?_eq_some.mp hsome
      rcases h.text.eq_or with heq | ⟨-, hheader'⟩
      · rw [SourceLine.condition?_eq_some, ← heq, htext]
      · rw [htext, SourceLine.getLast?_ifHeader] at hheader'
        exact absurd rfl hheader'

end SourceLine.Like

namespace Item

variable {ls ls' : List SourceLine}

/-- Lines under a header are read as a block, or they are not, with the same fault. -/
inductive BlockLike : Except Fault (List (List Char) × List SourceLine) →
    Except Fault (List (List Char) × List SourceLine) → Prop where
  | error {fault : Fault} : BlockLike (.error fault) (.error fault)
  | ok {texts texts' : List (List Char)} {rest rest' : List SourceLine}
      (htexts : List.Forall₂ Alike texts texts') (hrest : List.Forall₂ SourceLine.Like rest rest') :
      BlockLike (.ok (texts, rest)) (.ok (texts', rest'))

theorem like_takeWhile (h : List.Forall₂ SourceLine.Like ls ls') :
    List.Forall₂ SourceLine.Like (ls.takeWhile (·.indented)) (ls'.takeWhile (·.indented)) ∧
      List.Forall₂ SourceLine.Like (ls.dropWhile (·.indented)) (ls'.dropWhile (·.indented)) := by
  induction h with
  | nil => exact ⟨.nil, .nil⟩
  | @cons line line' ls ls' hline hmore ih =>
      cases hindented : line.indented with
      | true =>
          have hindented' : line'.indented = true := hline.indented.trans hindented
          rw [List.takeWhile_cons_of_pos hindented, List.takeWhile_cons_of_pos hindented',
            List.dropWhile_cons_of_pos hindented, List.dropWhile_cons_of_pos hindented']
          exact ⟨.cons hline ih.1, ih.2⟩
      | false =>
          have hindented' : line'.indented = false := hline.indented.trans hindented
          have hnot {line : SourceLine} (h : line.indented = false) : ¬ line.indented = true :=
            Bool.eq_false_iff.mp h
          rw [List.takeWhile_cons_of_neg (hnot hindented),
            List.takeWhile_cons_of_neg (hnot hindented'),
            List.dropWhile_cons_of_neg (hnot hindented),
            List.dropWhile_cons_of_neg (hnot hindented')]
          exact ⟨.nil, .cons hline hmore⟩

theorem like_find? (h : List.Forall₂ SourceLine.Like ls ls') :
    (ls'.find? (·.isHeader)).map (·.number) = (ls.find? (·.isHeader)).map (·.number) := by
  induction h with
  | nil => rfl
  | cons hline _ ih =>
      rw [List.find?_cons, List.find?_cons, hline.isHeader]
      split
      · exact congrArg some hline.number
      · exact ih

theorem like_isEmpty (h : List.Forall₂ SourceLine.Like ls ls') : ls'.isEmpty = ls.isEmpty := by
  cases h <;> rfl

theorem block_like (h : List.Forall₂ SourceLine.Like ls ls') (header : Nat) :
    BlockLike (block header ls) (block header ls') := by
  obtain ⟨hbody, hrest⟩ := like_takeWhile h
  have hfind := like_find? hbody
  rw [block, block]
  cases hheader : (ls.takeWhile (·.indented)).find? (·.isHeader) with
  | some line =>
      rw [hheader] at hfind
      obtain ⟨line', hheader', hnumber⟩ := Option.map_eq_some_iff.mp hfind
      rw [hheader']
      simp only [hnumber]
      exact .error
  | none =>
      rw [hheader] at hfind
      rw [Option.map_eq_none_iff.mp hfind]
      simp only [like_isEmpty hbody]
      split
      · exact .error
      · refine .ok ?_ hrest
        rw [List.forall₂_map_left_iff, List.forall₂_map_right_iff]
        exact hbody.imp fun _ _ hline => hline.text

theorem elseBlock_like (h : List.Forall₂ SourceLine.Like ls ls') :
    BlockLike (elseBlock ls) (elseBlock ls') := by
  cases h with
  | nil => exact .ok .nil .nil
  | cons hline hmore =>
      rw [elseBlock, elseBlock, hline.isElse, hline.number]
      split
      · exact block_like hmore _
      · exact .ok .nil (.cons hline hmore)

theorem ofLines_indented {line : SourceLine} {rest : List SourceLine}
    (hindented : line.indented = true) :
    ofLines (line :: rest) = [.malformed (.unexpectedIndent line.number)] := by
  rw [ofLines, if_pos hindented]

theorem ofLines_unsupported {line : SourceLine} {rest : List SourceLine}
    (hflush : line.indented = false) (hcondition : line.condition? = none)
    (hheader : line.isHeader = true) :
    ofLines (line :: rest) = [.malformed (.unsupportedBlock line.number)] := by
  rw [ofLines, hflush, hcondition, hheader]
  rfl

theorem ofLines_like (h : List.Forall₂ SourceLine.Like ls ls') :
    List.Forall₂ Like (ofLines ls) (ofLines ls') := by
  -- An `if` block takes many lines at once, so the induction is on their number.
  induction hlength : ls.length using Nat.strong_induction_on generalizing ls ls' with
  | h n ih =>
    subst hlength
    cases h with
    | nil =>
        rw [ofLines]
        exact .nil
    | @cons line line' rest rest' hline hmore =>
      cases hindented : line.indented with
      | true =>
          rw [ofLines_indented hindented, ofLines_indented (hline.indented.trans hindented),
            hline.number]
          exact .cons .malformed .nil
      | false =>
        have hindented' : line'.indented = false := hline.indented.trans hindented
        cases hcondition : line.condition? with
        | none =>
            have hcondition' : line'.condition? = none := hline.condition?.trans hcondition
            cases hheader : line.isHeader with
            | true =>
                rw [ofLines_unsupported hindented hcondition hheader, ofLines_unsupported
                  hindented' hcondition' (hline.isHeader.trans hheader), hline.number]
                exact .cons .malformed .nil
            | false =>
                have hheader' : line'.isHeader = false := hline.isHeader.trans hheader
                rw [ofLines_simple hindented (ne_of_beq_false hheader),
                  ofLines_simple hindented' (ne_of_beq_false hheader')]
                exact .cons (.simple hline.text)
                  (ih rest.length (Nat.lt_succ_self _) hmore rfl)
        | some condition =>
            have htext := SourceLine.condition?_eq_some.mp hcondition
            have htext' := hline.text_eq htext
            have hblocks := block_like hmore line.number
            generalize hblock : block line.number rest = found,
              hblock' : block line.number rest' = found' at hblocks
            rw [← hline.number] at hblock'
            cases hblocks with
            | error =>
                rw [ofLines_spoiled_body hindented htext hblock,
                  ofLines_spoiled_body hindented' htext' hblock']
                exact .cons .malformed .nil
            | @ok texts texts' between between' htexts hbetween =>
                have helses := elseBlock_like hbetween
                generalize helse : elseBlock between = found,
                  helse' : elseBlock between' = found' at helses
                cases helses with
                | error =>
                    rw [ofLines_spoiled_orelse hindented htext hblock helse,
                      ofLines_spoiled_orelse hindented' htext' hblock' helse']
                    exact .cons .malformed .nil
                | @ok _ _ after after' horelse hafter =>
                    have hshorter : after.length ≤ rest.length :=
                      (elseBlock_length helse).trans (block_length hblock)
                    rw [ofLines_branch hindented htext hblock helse,
                      ofLines_branch hindented' htext' hblock' helse']
                    exact .cons (.branch htexts horelse)
                      (ih after.length (Nat.lt_succ_of_le hshorter) hafter rfl)

end Item

/-! ### Texts -/

/-- The line with or without a comment that it bears, where it is the header of no block and the
comment does not look like the end of one. -/
inductive Annotates (raw : List Char) : List Char → Prop where
  | same : Annotates raw raw
  | comment {comment : List Char} (hcontent : ¬ IsGap raw)
      (hheader : (Text.trim raw).getLast? ≠ some ':')
      (hcolon : (Text.trimEnd ('#' :: comment)).getLast? ≠ some ':') (h : Bears raw comment) :
      Annotates raw (remark raw comment)

section Raw

variable {raw raw' : List Char}

theorem allBlank_of_not_isGap (hcontent : ¬ IsGap raw) : Text.allBlank raw = false := by
  rw [Bool.eq_false_iff]
  intro hblank
  exact hcontent (.inl (Text.trim_eq_nil_iff.mpr hblank))

theorem not_isGap_remark (hcontent : ¬ IsGap raw) (comment : List Char) :
    ¬ IsGap (remark raw comment) := by
  obtain ⟨gap, rest, -, -, -, -, htrim⟩ :=
    Text.exists_trim_append_comment (allBlank_of_not_isGap hcontent) comment
  obtain ⟨hfull, hcomment⟩ := not_or.mp hcontent
  rw [IsGap, remark, htrim]
  cases htext : Text.trim raw with
  | nil => exact absurd htext hfull
  | cons c text =>
      rw [htext] at hcomment
      rintro (hnil | hhead)
      · cases hnil
      · exact hcomment hhead

theorem alike_remark {comment : List Char} (hcontent : ¬ IsGap raw)
    (hheader : (Text.trim raw).getLast? ≠ some ':')
    (hcolon : (Text.trimEnd ('#' :: comment)).getLast? ≠ some ':') (h : Bears raw comment) :
    Alike (Text.trim raw) (Text.trim (remark raw comment)) := by
  have hfull := allBlank_of_not_isGap hcontent
  refine .statement hheader ?_ ?_
  · obtain ⟨gap, rest, -, -, hrest, -, htrim⟩ := Text.exists_trim_append_comment hfull comment
    rw [hrest] at hcolon
    have hsplit : Text.trim raw ++ (gap ++ ' ' :: '#' :: rest) =
        Text.trim raw ++ gap ++ [' '] ++ '#' :: rest := by
      rw [List.append_assoc, List.append_assoc, List.singleton_append]
    rw [remark, htrim, hsplit, List.getLast?_append_of_ne_nil _ (List.cons_ne_nil _ _)]
    exact hcolon
  · rcases h.execute hfull with hsame | hfails
    · rw [hsame]
      exact .refl _
    · exact imitates_of_fault hfails _

theorem Annotates.importedModules (h : Annotates raw raw') :
    importedModules (Text.trim raw') = importedModules (Text.trim raw) := by
  cases h with
  | same => rfl
  | comment hcontent _ _ h => exact h.importedModules (allBlank_of_not_isGap hcontent)

theorem startsBlank_remark (hcontent : ¬ IsGap raw) (comment : List Char) :
    Text.startsBlank (remark raw comment) = Text.startsBlank raw := by
  apply Text.startsBlank_append
  rintro rfl
  exact hcontent (.inl rfl)

end Raw

theorem like_readFrom {raws raws' : List (List Char)} (h : List.Forall₂ Annotates raws raws')
    (number : Nat) : List.Forall₂ SourceLine.Like (SourceLine.readFrom number raws)
      (SourceLine.readFrom number raws') := by
  induction h generalizing number with
  | nil => exact .nil
  | @cons raw raw' raws raws' hraw _ ih =>
      by_cases hgap : IsGap raw
      · cases hraw with
        | same =>
            rw [SourceLine.readFrom_gap hgap, SourceLine.readFrom_gap hgap]
            exact ih (number + 1)
        | comment hcontent => exact absurd hgap hcontent
      · cases hraw with
        | same =>
            rw [SourceLine.readFrom_line hgap, SourceLine.readFrom_line hgap]
            exact .cons ⟨rfl, rfl, .same⟩ (ih (number + 1))
        | @comment comment hcontent hheader hcolon h =>
            rw [SourceLine.readFrom_line hgap,
              SourceLine.readFrom_line (not_isGap_remark hcontent comment)]
            exact .cons ⟨rfl, startsBlank_remark hcontent comment,
              alike_remark hcontent hheader hcolon h⟩ (ih (number + 1))

theorem modules_of_annotates {raws raws' : List (List Char)}
    (h : List.Forall₂ Annotates raws raws') :
    (raws'.flatMap fun raw => importedModules (Text.trim raw)) =
      raws.flatMap fun raw => importedModules (Text.trim raw) := by
  induction h with
  | nil => rfl
  | cons hraw _ ih => rw [List.flatMap_cons, List.flatMap_cons, hraw.importedModules, ih]

theorem loadImports_of_annotates {code code' : String}
    (h : List.Forall₂ Annotates (Text.lines code.toList) (Text.lines code'.toList)) :
    loadImports code' = loadImports code := by
  rw [loadImports, loadImports, modules_of_annotates h]

theorem imitates_runCode {code code' : String}
    (h : List.Forall₂ Annotates (Text.lines code.toList) (Text.lines code'.toList)) :
    Imitates (runCode code) (runCode code') := by
  have hitems := Item.ofLines_like (like_readFrom h 1)
  exact (Item.imitates_runAll hitems none).bind fun value => .refl _

theorem plays_perform_iff {α : Type} {script : Running α} {scope scope' : Scope} {a : α}
    {log : List Exchange} : (perform script scope).Plays log (.ok a, scope') ↔
      (script.run scope).Plays log (.ok a, scope') := by
  constructor
  · intro h
    obtain ⟨first, second, ⟨outcome, between⟩, rfl, hfirst, hsecond⟩ :=
      Dialogue.exists_plays_of_bind h
    cases outcome with
    | error fault => cases hsecond
    | ok value =>
        cases hsecond
        rw [List.append_nil]
        exact hfirst
  · intro h
    rw [← List.append_nil log]
    exact h.bind (.done _)

theorem perform_imitates {α : Type} {script script' : Running α} (h : Imitates script script')
    {scope scope' : Scope} {a : α} {log : List Exchange}
    (hplays : (perform script scope).Plays log (.ok a, scope')) :
    (perform script' scope).Plays log (.ok a, scope') :=
  plays_perform_iff.mpr (h scope log a scope' (plays_perform_iff.mp hplays))

/-- Comments behind any number of lines that bear them change nothing. -/
theorem plays_of_annotates {available : List String} {code code' : String} {scope scope' : Scope}
    {log : List Exchange} {value : Option String}
    (hlines : List.Forall₂ Annotates (Text.lines code.toList) (Text.lines code'.toList))
    (h : ((interpreter available).loadAndRun code scope).Plays log (.ok value, scope')) :
    ((interpreter available).loadAndRun code' scope).Plays log (.ok value, scope') := by
  obtain ⟨first, second, ⟨ending, between⟩, rfl, hload, hrun⟩ := Dialogue.exists_plays_of_bind h
  refine Dialogue.Plays.bind (a := (ending, between)) ?_ ?_
  · show (perform (loadImports code') scope).Plays first (ending, between)
    rw [loadImports_of_annotates hlines]
    exact hload
  · cases ending with
    | ok => exact perform_imitates (imitates_runCode hlines) hrun
    | raised error => cases hrun
    | panicked message => cases hrun

/-- A comment behind a statement changes nothing about a program that goes well: not its calls,
nor what comes of them, nor the names and modules it leaves, nor its result. -/
theorem comment_has_no_bearing {available : List String} {code code' : String}
    {before after : List (List Char)} {raw comment : List Char} {scope scope' : Scope}
    {log : List Exchange} {value : Option String}
    (hlines : Text.lines code.toList = before ++ raw :: after)
    (hlines' : Text.lines code'.toList = before ++ remark raw comment :: after)
    (hcontent : ¬ IsGap raw) (hheader : (Text.trim raw).getLast? ≠ some ':')
    (hcolon : (Text.trimEnd ('#' :: comment)).getLast? ≠ some ':') (hbears : Bears raw comment)
    (h : ((interpreter available).loadAndRun code scope).Plays log (.ok value, scope')) :
    ((interpreter available).loadAndRun code' scope).Plays log (.ok value, scope') := by
  refine plays_of_annotates ?_ h
  rw [hlines, hlines']
  have hsame (raws : List (List Char)) : List.Forall₂ Annotates raws raws :=
    List.forall₂_same.mpr fun _ _ => .same
  exact List.rel_append (hsame before)
    (.cons (.comment hcontent hheader hcolon hbears) (hsame after))

/-! ### Expressions -/

/-- What an expression statement gives of its value. -/
def shown : Value → Option Value
  | .nothing => none
  | value => some value

/-- A line of tokens that neither raises nor assigns is an expression, and shows its value. -/
theorem execute_expression {text : List Char} {tokens : List Token}
    (hpass : text ≠ "pass".toList) (himport : isImport text = false)
    (htokens : Token.tokenize text = .ok tokens) (hraise : tokens.head? ≠ some (.name "raise"))
    (hassign : tokens[1]? ≠ some .assign) (scope : Scope) :
    (execute text).run scope =
      (Expression.evaluate scope tokens).run.bind fun result =>
        .done (result.map shown, scope) := by
  have hread : (observe fun _ => Expression.pass (.ok tokens) : Running (List Token)) =
      pure tokens := rfl
  rw [execute, if_neg hpass, if_neg (Bool.eq_false_iff.mp himport), htokens, hread, pure_bind]
  split
  · exact absurd rfl hraise
  · exact absurd rfl hassign
  · rw [run_bind]
    show (Dialogue.bind _ _).bind _ = _
    rw [Dialogue.bind_assoc]
    refine congrArg (Dialogue.bind _) (funext fun result => ?_)
    cases result with
    | error fault => rfl
    | ok value => cases value <;> rfl

theorem execute_token {text : List Char} {token : Token} {scope : Scope}
    {result : Except Fault Value} (hpass : text ≠ "pass".toList) (himport : isImport text = false)
    (htokens : Token.tokenize text = .ok [token]) (hraise : token ≠ .name "raise")
    (hvalue : (Expression.evaluate scope [token]).run = .done result) :
    (execute text).run scope = .done (result.map shown, scope) := by
  rw [execute_expression hpass himport htokens (fun h => hraise (Option.some.inj h)) (by simp),
    hvalue, Dialogue.done_bind]

theorem loadAndRun_one : (interpreter []).loadAndRun "1" ⟨[], [], []⟩ =
    .done (.ok (some "1"), ⟨[], [], []⟩) := by
  have hvalue : Expression.evaluate ⟨[], [], []⟩ [.int 1] = pure (.int 1) :=
    Expression.evaluate_tokens (.sum (.terms (.int 1) .none))
  have hitems : Item.ofLines (SourceLine.ofText "1") = [.simple ['1']] := by
    with_unfolding_all rfl
  have hload : (interpreter []).load "1" ⟨[], [], []⟩ = .done (.ok (), ⟨[], [], []⟩) := by
    with_unfolding_all rfl
  rw [Interpreter.loadAndRun, hload]
  show (interpreter []).run "1" ⟨[], [], []⟩ = _
  rw [run_of_items hitems, Item.runAll, run_bind, Item.run, execute_token (by decide) (by decide)
    (by with_unfolding_all rfl) (by rintro ⟨⟩) (congrArg ExceptT.run hvalue)]
  rfl

theorem comment_has_no_bearing_on_one :
    ((interpreter []).loadAndRun "1 # one, two" ⟨[], [], []⟩).Plays []
      (.ok (some "1"), ⟨[], [], []⟩) := by
  have hends : ∀ gap, ['1'] = Text.trimEnd ['1'] ++ gap → ∀ c ∈ gap, c = ' ' ∨ c = '\t' := by
    intro gap hgap
    obtain rfl : gap = [] := List.append_right_eq_self.mp hgap.symm
    rintro _ ⟨⟩
  have hcontent : ¬ IsGap ['1'] := by
    rw [IsGap, not_or]
    decide
  refine @comment_has_no_bearing [] "1" "1 # one, two" [] [] ['1'] " one, two".toList _ _ _ _
    (by decide +kernel) (by decide +kernel) hcontent (by decide) (by decide)
    (.tokens (by decide) (by decide) hends) ?_
  rw [loadAndRun_one]
  exact .done _

/-! ### Lines that bear no comment -/

/-- A bare `pass` with a comment behind it is looked up as a name. -/
theorem execute_pass_comment (comment : List Char) {scope : Scope}
    (hname : scope.get? "pass" = none) :
    (execute (Text.trim (remark "pass".toList comment))).run scope =
      .done (.error (.undefined "pass"), scope) := by
  obtain ⟨gap, rest, hraw, -, -, -, htrim⟩ :=
    @Text.exists_trim_append_comment "pass".toList rfl comment
  obtain rfl : gap = [] := List.append_right_eq_self.mp hraw.symm
  have hpass : Token.tokenize "pass".toList = .ok [.name "pass"] := by with_unfolding_all rfl
  have htrails : Token.Trails (' ' :: '#' :: rest) :=
    Token.trails_of_gap (fun _ hc => absurd hc List.not_mem_nil) rest
  have hvalue : (Expression.evaluate scope [.name "pass"]).run =
      .done (.error (.undefined "pass")) := by
    have htree : Expression.evaluate scope [.name "pass"] =
        (Grammar.Comparison.sum (.terms (.name "pass") .none)).eval scope :=
      Expression.evaluate_tokens (.sum (.terms (.name "pass") .none))
    have hlookup : Expression.lookup scope "pass" = .error (.undefined "pass") := by
      rw [Expression.lookup, if_neg (by decide), if_neg (by decide), if_neg (by decide), hname]
    rw [htree, Grammar.Comparison.eval, Grammar.Sum.eval, Grammar.Term.eval, hlookup]
    rfl
  have hspoiled : Text.trim "pass".toList ++ ' ' :: '#' :: rest ≠ "pass".toList :=
    fun heq => absurd (List.append_right_eq_self.mp heq) (List.cons_ne_nil _ _)
  rw [remark, htrim]
  exact execute_token hspoiled rfl (Token.tokenize_append htrails hpass) (by decide) hvalue

/-- A program that goes well, and does not when there is a comment behind it. -/
theorem comment_after_pass_has_a_bearing :
    (interpreter []).loadAndRun "pass" ⟨[], [], []⟩ = .done (.ok none, ⟨[], [], []⟩) ∧
    (interpreter []).loadAndRun "pass # c" ⟨[], [], []⟩ =
      .done (.raised ⟨"NameError", "name 'pass' is not defined"⟩, ⟨[], [], []⟩) := by
  constructor
  · with_unfolding_all rfl
  · have hitems : Item.ofLines (SourceLine.ofText "pass # c") =
        [.simple (Text.trim (remark "pass".toList " c".toList))] := by
      with_unfolding_all rfl
    have hload : (interpreter []).load "pass # c" ⟨[], [], []⟩ =
        .done (.ok (), ⟨[], [], []⟩) := by
      with_unfolding_all rfl
    rw [Interpreter.loadAndRun, hload]
    show (interpreter []).run "pass # c" ⟨[], [], []⟩ = _
    rw [run_of_items hitems, Item.runAll, run_bind, Item.run, execute_pass_comment _ rfl]
    rfl

end Script
end ScriptConsole
