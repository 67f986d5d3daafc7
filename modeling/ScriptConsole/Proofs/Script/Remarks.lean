import ScriptConsole.Proofs.Script.Blocks
import ScriptConsole.Proofs.Text.Lines

/-!
Comments behind a statement. The reader of tokens takes a comment for the end of the line, so that
the tokens are the same with it and without it. An import line is not read by tokens: there a
comment is harmless only as long as the last module stands before it and no comma is in it.
-/

namespace ScriptConsole

namespace Text

variable {s tail comment raw : List Char}

theorem firstWord_append (hs : allBlank s = false) (htail : startsBlank tail = true) :
    firstWord (s ++ tail) = firstWord s := by
  have hends : ∀ c ∈ tail.head?, (!isBlank c) = false := by
    intro c hc
    cases tail with
    | nil => cases hc
    | cons d tail =>
        cases hc
        rw [startsBlank] at htail
        rw [htail]
        rfl
  rw [firstWord, firstWord, trimStart_append hs]
  cases hstart : trimStart s with
  | nil =>
      have hall := allBlank_trimStart s
      rw [hstart, hs] at hall
      cases hall
  | cons c rest =>
      rw [List.cons_append]
      simp only [takeWhile_append_of_head hends]

theorem splitOn_append {separator : Char} (htail : separator ∉ tail) (s : List Char) :
    ∃ pieces last, s.splitOn separator = pieces ++ [last] ∧
      (s ++ tail).splitOn separator = pieces ++ [last ++ tail] := by
  induction s with
  | nil => exact ⟨[], [], rfl, List.splitOn_eq_singleton htail⟩
  | cons c s ih =>
      obtain ⟨pieces, last, hs, hmore⟩ := ih
      rw [List.cons_append, List.splitOn_cons_eq_if_modifyHead,
        List.splitOn_cons_eq_if_modifyHead, hs, hmore]
      split
      · exact ⟨[] :: pieces, last, rfl, rfl⟩
      · cases pieces with
        | nil => exact ⟨[], c :: last, rfl, rfl⟩
        | cons piece pieces => exact ⟨(c :: piece) :: pieces, last, rfl, rfl⟩

theorem exists_trimStart_append (hfull : allBlank s = false) :
    ∃ gap, s = trimEnd s ++ gap ∧ allBlank gap = true ∧ trimStart s = trim s ++ gap := by
  obtain ⟨gap, hs, hgap⟩ := exists_trimEnd_append s
  refine ⟨gap, hs, hgap, ?_⟩
  apply @List.append_cancel_left _ (s.takeWhile isBlank)
  calc
    s.takeWhile isBlank ++ trimStart s = s := List.takeWhile_append_dropWhile
    _ = trimEnd s ++ gap := hs
    _ = s.takeWhile isBlank ++ (trim s ++ gap) := by
      rw [trimEnd_eq_indented hfull, List.append_assoc]

theorem exists_trimEnd_comment (comment : List Char) :
    ∃ rest, trimEnd ('#' :: comment) = '#' :: rest ∧ ∀ c ∈ rest, c ∈ comment := by
  obtain ⟨blanks, hends, -⟩ := exists_trimEnd_append ('#' :: comment)
  cases hrest : trimEnd ('#' :: comment) with
  | nil => exact absurd (trimEnd_eq_nil_iff.mp hrest) Bool.false_ne_true
  | cons c rest =>
      rw [hrest, List.cons_append] at hends
      obtain ⟨rfl, hcomment⟩ := List.cons.inj hends
      refine ⟨rest, rfl, ?_⟩
      intro d hd
      rw [hcomment]
      exact List.mem_append_left blanks hd

/-- A line with a comment behind it says what it said, and then the comment. -/
theorem exists_trim_append_comment (hfull : allBlank raw = false) (comment : List Char) :
    ∃ gap rest, raw = trimEnd raw ++ gap ∧ allBlank gap = true ∧
      trimEnd ('#' :: comment) = '#' :: rest ∧ (∀ c ∈ rest, c ∈ comment) ∧
      trim (raw ++ ' ' :: '#' :: comment) = trim raw ++ (gap ++ ' ' :: '#' :: rest) := by
  obtain ⟨gap, hraw, hgap, hstart⟩ := exists_trimStart_append hfull
  obtain ⟨rest, hrest, hmem⟩ := exists_trimEnd_comment comment
  refine ⟨gap, rest, hraw, hgap, hrest, hmem, ?_⟩
  calc
    trim (raw ++ ' ' :: '#' :: comment)
        = trimEnd (trimStart raw ++ [' '] ++ '#' :: comment) := by
          rw [trim, trimStart_append hfull, List.append_assoc, List.singleton_append]
    _ = trimStart raw ++ [' '] ++ '#' :: rest := by
          rw [trimEnd_append (by rfl), hrest]
    _ = trim raw ++ (gap ++ ' ' :: '#' :: rest) := by
          rw [hstart, List.append_assoc, List.append_assoc, List.singleton_append]

end Text

namespace Script

namespace Token

variable {s tail : List Char}

/-- What may stand behind a line of tokens: a gap, and then nothing that is read. -/
structure Trails (tail : List Char) : Prop where
  gap : ∀ c ∈ tail.head?, c = ' ' ∨ c = '\t'
  silent : tokenize tail = .ok []

theorem tokenize_gap {gap : List Char} (hgap : ∀ c ∈ gap, c = ' ' ∨ c = '\t') (s : List Char) :
    tokenize (gap ++ s) = tokenize s := by
  induction gap with
  | nil => rfl
  | cons c gap ih =>
      obtain ⟨hc, hmore⟩ := List.forall_mem_cons.mp hgap
      rw [List.cons_append, tokenize, if_pos hc, ih hmore]

theorem tokenize_comment (comment : List Char) : tokenize ('#' :: comment) = .ok [] := by
  rw [tokenize, if_neg (by decide), if_pos rfl]

theorem trails_of_gap {gap : List Char} (hgap : ∀ c ∈ gap, c = ' ' ∨ c = '\t')
    (comment : List Char) : Trails (gap ++ ' ' :: '#' :: comment) := by
  constructor
  · intro c hc
    cases gap with
    | nil =>
        cases hc
        exact .inl rfl
    | cons d gap =>
        apply hgap c
        cases hc
        exact List.mem_cons_self
  · rw [tokenize_gap hgap, tokenize, if_pos (.inl rfl), tokenize_comment]

theorem head_gap (hgap : ∀ c ∈ tail.head?, c = ' ' ∨ c = '\t') {p : Char → Bool}
    (hspace : p ' ' = false) (htab : p '\t' = false) : ∀ c ∈ tail.head?, p c = false := by
  intro c hc
  rcases hgap c hc with rfl | rfl
  · exact hspace
  · exact htab

theorem Trails.head (h : Trails tail) {p : Char → Bool} (hspace : p ' ' = false)
    (htab : p '\t' = false) : ∀ c ∈ tail.head?, p c = false :=
  head_gap h.gap hspace htab

theorem readString?_cons {quote c : Char} (hc : c ≠ '\\') (rest : List Char) :
    readString? quote (c :: rest) =
      if c = quote then some ([], rest)
      else (readString? quote rest).map fun (text, rest) => (c :: text, rest) := by
  rw [readString?]
  · simp only [if_neg hc]
  · intro d more hslash
    exact absurd hslash hc

theorem readString?_append {quote : Char} (hquote : quote ≠ '\\') {text rest : List Char}
    (hread : readString? quote s = some (text, rest)) (tail : List Char) :
    readString? quote (s ++ tail) = some (text, rest ++ tail) := by
  fun_induction readString? quote s generalizing text with
  | case1 => cases hread
  | case2 c more ih =>
      obtain ⟨⟨inner, after⟩, hmore, hpair⟩ := Option.map_eq_some_iff.mp hread
      obtain ⟨rfl, rfl⟩ := Prod.mk.inj hpair
      rw [List.cons_append, List.cons_append, readString?, ih hmore]
      rfl
  | case3 more hescape =>
      obtain ⟨rfl, rfl⟩ := Prod.mk.inj (Option.some.inj hread)
      rw [List.cons_append, readString?_cons hquote, if_pos rfl]
  | case4 => cases hread
  | case5 c more hescape hother hslash ih =>
      obtain ⟨⟨inner, after⟩, hmore, hpair⟩ := Option.map_eq_some_iff.mp hread
      obtain ⟨rfl, rfl⟩ := Prod.mk.inj hpair
      rw [List.cons_append, readString?_cons hslash, if_neg hother, ih hmore]
      rfl

/-- What was read and what is left, without the bound on its length. -/
def seen {s : List Char} (lexed : Except Fault (Lexed s)) : Except Fault (Token × List Char) :=
  lexed.map fun l => (l.1, l.2.1)

theorem tokenize_cons {c : Char} {rest : List Char} (hgap : ¬ (c = ' ' ∨ c = '\t'))
    (hcomment : c ≠ '#') : tokenize (c :: rest) =
      (seen (readFrom c rest)).bind fun (token, rest) => (tokenize rest).map (token :: ·) := by
  rw [tokenize, if_neg hgap, if_neg hcomment]
  cases readFrom c rest <;> rfl

theorem seen_readSign_append {second : Char} (hsecond : ¬ (second = ' ' ∨ second = '\t'))
    {both token : Token} {alone : Except Fault Token} {rest after : List Char} (h : Trails tail)
    (hread : seen (readSign second both alone rest) = .ok (token, after)) :
    seen (readSign second both alone (rest ++ tail)) = .ok (token, after ++ tail) := by
  cases rest with
  | nil =>
      cases tail with
      | nil =>
          rw [List.append_nil, List.append_nil]
          exact hread
      | cons c tail =>
          have hc : c ≠ second := by
            rintro rfl
            exact hsecond (h.gap c rfl)
          rw [List.nil_append, readSign, if_neg hc]
          cases alone with
          | error fault => cases hread
          | ok alone =>
              cases hread
              rfl
  | cons c rest =>
      rw [readSign] at hread
      rw [List.cons_append, readSign]
      split at hread
      · next hc =>
        cases hread
        rw [if_pos hc]
        rfl
      · next hc =>
        rw [if_neg hc]
        cases alone with
        | error fault => cases hread
        | ok alone =>
            cases hread
            rfl

theorem seen_readFrom_append {c : Char} {rest after : List Char} {token : Token} (h : Trails tail)
    (hread : seen (readFrom c rest) = .ok (token, after)) :
    seen (readFrom c (rest ++ tail)) = .ok (token, after ++ tail) := by
  rw [readFrom] at hread ⊢
  repeat' split at hread
  · next hc =>
    rw [if_pos hc]
    exact seen_readSign_append (by decide) h hread
  · next hequal hc =>
    rw [if_neg hequal, if_pos hc]
    exact seen_readSign_append (by decide) h hread
  iterate 4
    · next hc =>
      subst hc
      cases hread
      rfl
  · cases hread
  · next hquote text found hfound =>
    cases hread
    have hslash : c ≠ '\\' := by
      rintro rfl
      rcases hquote with hquote | hquote <;> cases hquote
    simp only [*, if_true, if_false]
    have hmore := readString?_append hslash hfound tail
    split
    · next hnone => cases hnone.symm.trans hmore
    · next text' found' hfound' =>
      cases hfound'.symm.trans hmore
      rfl
  · cases hread
  · next n hn =>
    cases hread
    have hends := h.head (p := continuesInt) rfl rfl
    simp only [*, if_true, if_false, Text.takeWhile_append_of_head hends,
      Text.dropWhile_append_of_head hends]
    rfl
  · next hstarts =>
    cases hread
    have hends := h.head (p := continuesName) rfl rfl
    simp only [*, if_true, if_false, Text.takeWhile_append_of_head hends,
      Text.dropWhile_append_of_head hends]
    rfl
  · cases hread

theorem exists_of_map_eq_ok {α β : Type} {read : Except Fault α} {f : α → β} {b : β}
    (h : read.map f = .ok b) : ∃ a, read = .ok a ∧ f a = b := by
  cases read with
  | error fault => cases h
  | ok a => exact ⟨a, rfl, Except.ok.inj h⟩

theorem tokenize_append (h : Trails tail) {tokens : List Token} (hread : tokenize s = .ok tokens) :
    tokenize (s ++ tail) = .ok tokens := by
  fun_induction tokenize s generalizing tokens with
  | case1 =>
      cases hread
      exact h.silent
  | case2 c rest hgap ih =>
      rw [List.cons_append, tokenize, if_pos hgap]
      exact ih hread
  | case3 rest =>
      cases hread
      exact tokenize_comment (rest ++ tail)
  | case4 => cases hread
  | case5 c rest hgap hcomment token after hshorter hfirst ih =>
      obtain ⟨more, hmore, rfl⟩ := exists_of_map_eq_ok hread
      have hseen : seen (readFrom c rest) = .ok (token, after) := by
        rw [hfirst]
        rfl
      rw [List.cons_append, tokenize_cons hgap hcomment, seen_readFrom_append h hseen]
      show (tokenize (after ++ tail)).map (token :: ·) = .ok (token :: more)
      rw [ih hmore]
      rfl

end Token
/-! ### Import lines -/

variable {text tail rest gap comment : List Char}

theorem after?_eq_some_iff {head s : List Char} :
    Text.after? head s = some rest ↔ s = head ++ rest := by
  rw [Text.after?, List.isPrefixOf?_eq_some_iff_append_eq, eq_comm]

theorem prefix_of_prefix_append {word : List Char} (hword : ∀ c ∈ word, (!Text.isBlank c) = true)
    (htail : Text.startsBlank tail = true) (h : word ++ [' '] <+: text ++ tail) :
    word ++ [' '] <+: text ++ [' '] := by
  induction word generalizing text with
  | nil =>
      cases text with
      | nil => exact List.prefix_rfl
      | cons c text =>
          obtain ⟨rfl, -⟩ := List.cons_prefix_cons.mp h
          exact List.cons_prefix_cons.mpr ⟨rfl, List.nil_prefix⟩
  | cons w word ih =>
      obtain ⟨hw, hmore⟩ := List.forall_mem_cons.mp hword
      cases text with
      | nil =>
          -- The first character of the word would be the blank.
          cases tail with
          | nil => cases htail
          | cons c tail =>
              obtain ⟨rfl, -⟩ := List.cons_prefix_cons.mp h
              rw [Text.startsBlank] at htail
              rw [htail] at hw
              cases hw
      | cons c text =>
          obtain ⟨rfl, hrest⟩ := List.cons_prefix_cons.mp h
          exact List.cons_prefix_cons.mpr ⟨rfl, ih hmore hrest⟩

theorem isSome_after?_append (word : List Char) (hword : ∀ c ∈ word, (!Text.isBlank c) = true)
    (htail : Text.startsBlank tail = true)
    (hnone : (Text.after? (word ++ [' ']) (text ++ [' '])).isSome = false) :
    (Text.after? (word ++ [' ']) (text ++ tail)).isSome = false := by
  rw [Option.isSome_eq_false_iff, Option.isNone_iff_eq_none] at hnone ⊢
  rw [Option.eq_none_iff_forall_ne_some] at hnone ⊢
  intro rest hrest
  obtain ⟨more, hmore⟩ :=
    prefix_of_prefix_append hword htail ⟨rest, (after?_eq_some_iff.mp hrest).symm⟩
  exact hnone more (after?_eq_some_iff.mpr hmore.symm)

theorem isImport_append (htail : Text.startsBlank tail = true)
    (himport : isImport (text ++ [' ']) = false) : isImport (text ++ tail) = false := by
  rw [isImport, Bool.or_eq_false_iff] at himport ⊢
  constructor
  · exact isSome_after?_append "import".toList (List.all_eq_true.mp rfl) htail himport.1
  · exact isSome_after?_append "from".toList (List.all_eq_true.mp rfl) htail himport.2

theorem isImport_of_append {more : List Char} (himport : isImport (text ++ more) = false) :
    isImport text = false := by
  have hsome {head : List Char} (h : (Text.after? head (text ++ more)).isSome = false) :
      (Text.after? head text).isSome = false := by
    rw [Option.isSome_eq_false_iff, Option.isNone_iff_eq_none,
      Option.eq_none_iff_forall_ne_some] at h ⊢
    intro rest hrest
    apply h (rest ++ more)
    rw [after?_eq_some_iff] at hrest ⊢
    rw [hrest, List.append_assoc]
  rw [isImport, Bool.or_eq_false_iff] at himport ⊢
  exact ⟨hsome himport.1, hsome himport.2⟩

theorem importedModules_of_not_isImport (himport : isImport text = false) :
    importedModules text = [] := by
  rw [isImport, Bool.or_eq_false_iff, Option.isSome_eq_false_iff, Option.isSome_eq_false_iff,
    Option.isNone_iff_eq_none, Option.isNone_iff_eq_none] at himport
  rw [importedModules, himport.1, himport.2]

theorem importedModules_importHead (rest : List Char) : importedModules (importHead ++ rest) =
    ((rest.splitOn ',').filterMap Text.firstWord).map moduleOf := by
  rw [importedModules, after?_eq_some_iff.mpr rfl]

theorem importedModules_fromHead (rest : List Char) :
    importedModules (fromHead ++ rest) = ((Text.firstWord rest).map moduleOf).toList := by
  have hother : Text.after? importHead (fromHead ++ rest) = none := rfl
  rw [importedModules, hother, after?_eq_some_iff.mpr rfl]

theorem isImport_importHead (rest : List Char) : isImport (importHead ++ rest) = true := by
  rw [isImport, after?_eq_some_iff.mpr rfl]
  rfl

theorem isImport_fromHead (rest : List Char) : isImport (fromHead ++ rest) = true := by
  rw [isImport, Bool.or_eq_true]
  right
  rw [after?_eq_some_iff.mpr rfl]
  rfl

/-! ### Lines with a comment behind them -/

/-- A comment may stand behind the line. Where tokens are read, only spaces and tabs stand between
them, and the line is no bare word that is looked for as it is; in a list of modules, the comment
holds no comma and stands behind the last module. -/
inductive Bears (raw comment : List Char) : Prop where
  | tokens (hpass : Text.trim raw ≠ "pass".toList)
      (himport : isImport (Text.trim raw ++ [' ']) = false)
      (hgap : ∀ gap, raw = Text.trimEnd raw ++ gap → ∀ c ∈ gap, c = ' ' ∨ c = '\t')
  | origin {rest : List Char} (htext : Text.trim raw = fromHead ++ rest)
  | modules {rest : List Char} (htext : Text.trim raw = importHead ++ rest)
      (hlast : ∀ part ∈ (rest.splitOn ',').getLast?, Text.allBlank part = false)
      (hcomma : ',' ∉ comment)

/-- The line with a comment behind it. -/
def remark (raw comment : List Char) : List Char :=
  raw ++ ' ' :: '#' :: comment

theorem startsBlank_gap (hgap : Text.allBlank gap = true) (rest : List Char) :
    Text.startsBlank (gap ++ ' ' :: rest) = true := by
  cases gap with
  | nil => rfl
  | cons c gap => exact (Bool.and_eq_true_iff.mp hgap).1

theorem allBlank_of_trim_eq (head : List Char) {raw : List Char}
    (htext : Text.trim raw = head ++ ' ' :: rest) : Text.allBlank rest = false := by
  rw [Bool.eq_false_iff]
  intro hblank
  have hlast : (Text.trim raw).getLast? = some ((' ' :: rest).getLast (List.cons_ne_nil _ _)) := by
    rw [htext, List.getLast?_append, List.getLast?_eq_some_getLast (List.cons_ne_nil _ _),
      Option.some_or]
  have hall : ∀ c ∈ ' ' :: rest, Text.isBlank c = true := by
    rw [List.forall_mem_cons]
    exact ⟨rfl, List.all_eq_true.mp hblank⟩
  have hend := hall _ (List.getLast_mem (List.cons_ne_nil ' ' rest))
  rw [Text.getLast_trimEnd_full hlast] at hend
  cases hend

theorem Bears.importedModules {raw : List Char} (h : Bears raw comment)
    (hfull : Text.allBlank raw = false) :
    importedModules (Text.trim (remark raw comment)) = importedModules (Text.trim raw) := by
  obtain ⟨gap, rest, -, hgap, -, hrest, htrim⟩ := Text.exists_trim_append_comment hfull comment
  have htail := startsBlank_gap hgap ('#' :: rest)
  rw [remark, htrim]
  cases h with
  | tokens hpass himport hspaces =>
      rw [importedModules_of_not_isImport (isImport_append htail himport),
        importedModules_of_not_isImport (isImport_of_append himport)]
  | @origin more htext =>
      have hmore : Text.allBlank more = false := allBlank_of_trim_eq "from".toList htext
      rw [htext, List.append_assoc, importedModules_fromHead, importedModules_fromHead,
        Text.firstWord_append hmore htail]
  | @modules more htext hlast hcomma =>
      have hnone : ',' ∉ gap ++ ' ' :: '#' :: rest := by
        simp only [List.mem_append, List.mem_cons, not_or]
        refine ⟨?_, by decide, by decide, fun hmem => hcomma (hrest _ hmem)⟩
        intro hmem
        have hblank := List.all_eq_true.mp hgap ',' hmem
        cases hblank
      obtain ⟨pieces, last, hbefore, hafter⟩ := Text.splitOn_append hnone more
      rw [hbefore, List.getLast?_concat] at hlast
      rw [htext, List.append_assoc, importedModules_importHead, importedModules_importHead,
        hbefore, hafter, List.filterMap_append, List.filterMap_append]
      simp only [List.filterMap_cons, Text.firstWord_append (hlast last rfl) htail]

theorem execute_of_isImport (himport : isImport text = true) :
    execute text = do
      importModules (importedModules text)
      return none := by
  have hpass : text ≠ "pass".toList := by
    rintro rfl
    cases himport
  rw [execute, if_neg hpass, if_pos himport]

/-- A comment changes nothing about what a line does, unless the line fails anyway. -/
theorem Bears.execute {raw : List Char} (h : Bears raw comment)
    (hfull : Text.allBlank raw = false) :
    execute (Text.trim (remark raw comment)) = execute (Text.trim raw) ∨
      ∃ fault, ∀ scope, (execute (Text.trim raw)).run scope = .done (.error fault, scope) := by
  have himported := h.importedModules hfull
  obtain ⟨gap, rest, hraw, hgap, -, -, htrim⟩ := Text.exists_trim_append_comment hfull comment
  have htail := startsBlank_gap hgap ('#' :: rest)
  rw [remark, htrim] at himported ⊢
  cases h with
  | tokens hpass himport hspaces =>
      have hpass' : Text.trim raw ++ (gap ++ ' ' :: '#' :: rest) ≠ "pass".toList := by
        intro heq
        have hmem : '#' ∈ "pass".toList := by
          rw [← heq]
          simp
        revert hmem
        decide
      have himport' : ¬ isImport (Text.trim raw ++ (gap ++ ' ' :: '#' :: rest)) = true :=
        Bool.eq_false_iff.mp (isImport_append htail himport)
      have hbefore : ¬ isImport (Text.trim raw) = true :=
        Bool.eq_false_iff.mp (isImport_of_append himport)
      -- A line that cannot be read fails for what stands first, whatever the comment adds to it.
      cases hread : Token.tokenize (Text.trim raw) with
      | error fault =>
          right
          refine ⟨fault, fun scope => ?_⟩
          rw [Script.execute, if_neg hpass, if_neg hbefore, hread]
          rfl
      | ok tokens =>
          left
          have htrails := Token.trails_of_gap (hspaces gap hraw) rest
          rw [Script.execute, Script.execute, if_neg hpass, if_neg hpass', if_neg hbefore,
            if_neg himport', hread, Token.tokenize_append htrails hread]
  | @origin more htext =>
      left
      rw [htext, List.append_assoc] at himported ⊢
      rw [execute_of_isImport (isImport_fromHead _), execute_of_isImport (isImport_fromHead _),
        himported]
  | @modules more htext hlast hcomma =>
      left
      rw [htext, List.append_assoc] at himported ⊢
      rw [execute_of_isImport (isImport_importHead _), execute_of_isImport (isImport_importHead _),
        himported]

end Script
end ScriptConsole
