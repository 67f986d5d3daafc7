import ScriptConsole.Proofs.Json.Numbers

/-!
The grammar of JSON documents. Every text of the grammar is read as the value that it stands for,
with as many blanks between its parts as one likes, and nothing else is read at all.
-/

namespace ScriptConsole.Json

/-- Nothing but blanks that may stand between the parts of a document. -/
def Gap (gap : List Char) : Prop :=
  ∀ c ∈ gap, isSpace c = true

/-- The name of a field with its colon. -/
inductive WritesName : String → List Char → Prop where
  | mk {cs body before after : List Char} (hbefore : Gap before) (h : SpellsAll cs body)
      (hafter : Gap after) :
      WritesName (String.ofList cs) (before ++ '"' :: (body ++ '"' :: (after ++ [':'])))

/-- The parts of a document. -/
inductive Phrase where
  | value (rules : Rules) (j : Json)
  /-- The items of an array and its closing bracket. -/
  | items (rules : Rules) (items : List Json)
  | someItems (rules : Rules) (items : List Json)
  /-- The fields of an object and its closing brace, each value by the rules for its name. -/
  | fields (rulesFor : String → Rules) (fields : List (String × Json))
  | someFields (rulesFor : String → Rules) (fields : List (String × Json))

/-- The texts that stand for a part of a document. There are no blanks around a value. -/
inductive Writes : Phrase → List Char → Prop where
  | null {rules : Rules} : Writes (.value rules null) ['n', 'u', 'l', 'l']
  | bool_true {rules : Rules} : Writes (.value rules (bool true)) ['t', 'r', 'u', 'e']
  | bool_false {rules : Rules} : Writes (.value rules (bool false)) ['f', 'a', 'l', 's', 'e']
  | number {rules : Rules} {n : Number} {text : List Char} (h : WritesNumber rules n text) :
      Writes (.value rules (number n)) text
  | str {rules : Rules} {cs body : List Char} (h : SpellsAll cs body) :
      Writes (.value rules (str (String.ofList cs))) ('"' :: (body ++ ['"']))
  | array {rules inner : Rules} {items : List Json} {text : List Char}
      (henter : rules.enter? = some inner) (h : Writes (.items inner items) text) :
      Writes (.value rules (array items)) ('[' :: text)
  | object {rules inner : Rules} {fields : List (String × Json)} {text : List Char}
      (henter : rules.enter? = some inner) (h : Writes (.fields (fun _ => inner) fields) text) :
      Writes (.value rules (object fields)) ('\x7b' :: text)
  | noItem {rules : Rules} {gap : List Char} (hgap : Gap gap) :
      Writes (.items rules []) (gap ++ [']'])
  | items {rules : Rules} {items : List Json} {text : List Char}
      (h : Writes (.someItems rules items) text) : Writes (.items rules items) text
  | lastItem {rules : Rules} {item : Json} {before text after : List Char} (hbefore : Gap before)
      (h : Writes (.value rules item) text) (hafter : Gap after) :
      Writes (.someItems rules [item]) (before ++ (text ++ (after ++ [']'])))
  | nextItem {rules : Rules} {item : Json} {items : List Json} {before text after more : List Char}
      (hbefore : Gap before) (h : Writes (.value rules item) text) (hafter : Gap after)
      (hmore : Writes (.someItems rules items) more) :
      Writes (.someItems rules (item :: items)) (before ++ (text ++ (after ++ ',' :: more)))
  | noField {rulesFor : String → Rules} {gap : List Char} (hgap : Gap gap) :
      Writes (.fields rulesFor []) (gap ++ ['\x7d'])
  | fields {rulesFor : String → Rules} {fields : List (String × Json)} {text : List Char}
      (h : Writes (.someFields rulesFor fields) text) : Writes (.fields rulesFor fields) text
  | lastField {rulesFor : String → Rules} {name : String} {value : Json}
      {nameText before text after : List Char} (hname : WritesName name nameText)
      (hbefore : Gap before) (h : Writes (.value (rulesFor name) value) text) (hafter : Gap after) :
      Writes (.someFields rulesFor [(name, value)])
        (nameText ++ (before ++ (text ++ (after ++ ['\x7d']))))
  | nextField {rulesFor : String → Rules} {name : String} {value : Json}
      {fields : List (String × Json)} {nameText before text after more : List Char}
      (hname : WritesName name nameText) (hbefore : Gap before)
      (h : Writes (.value (rulesFor name) value) text) (hafter : Gap after)
      (hmore : Writes (.someFields rulesFor fields) more) :
      Writes (.someFields rulesFor ((name, value) :: fields))
        (nameText ++ (before ++ (text ++ (after ++ ',' :: more))))

/-- The text is one document that stands for the value. -/
inductive Document (j : Json) : List Char → Prop where
  | mk {before text after : List Char} (hbefore : Gap before) (h : Writes (.value .strict j) text)
      (hafter : Gap after) : Document j (before ++ (text ++ after))

/-! ### Readers without bounds -/

section Readers

variable {rules : Rules} {s rest : List Char} {j : Json}

theorem dropWhile_gap {gap : List Char} (hgap : Gap gap) {c : Char} (hc : isSpace c = false)
    (more : List Char) : (gap ++ c :: more).dropWhile isSpace = c :: more := by
  apply (Text.takeWhile_run hgap _).2
  rintro _ ⟨⟩
  exact hc

theorem exists_gap {c : Char} {more : List Char} (h : s.dropWhile isSpace = c :: more) :
    ∃ gap, Gap gap ∧ isSpace c = false ∧ s = gap ++ c :: more := by
  refine ⟨s.takeWhile isSpace, fun d hd => List.mem_takeWhile_imp hd, ?_, ?_⟩
  · have hhead := List.head?_dropWhile_not isSpace s
    rw [h] at hhead
    simpa using hhead
  · rw [← h, List.takeWhile_append_dropWhile]

theorem exists_skip (s : List Char) : ∃ left h, skip s = ⟨left, h⟩ ∧ s.dropWhile isSpace = left :=
  ⟨_, _, rfl, rfl⟩

theorem reads_readValue_iff : Reads (readValue rules s) j rest ↔
    ∃ c more, s.dropWhile isSpace = c :: more ∧ Reads (readFrom rules c more) j rest := by
  obtain ⟨left, hle, hskip, hdrop⟩ := exists_skip s
  rw [readValue, hskip, hdrop]
  cases left with
  | nil =>
      constructor
      · exact fun h => (not_reads_error h).elim
      · rintro ⟨c, more, ⟨⟩, -⟩
  | cons c more =>
      constructor
      · intro h
        obtain ⟨value, between, hbetween, hvalue, h⟩ := h.exists_of_bind
        obtain ⟨rfl, rfl⟩ := reads_ok_iff.mp h
        exact ⟨c, more, rfl, hvalue⟩
      · rintro ⟨_, _, ⟨⟩, h⟩
        exact h.bind fun _ => reads_ok_iff.mpr ⟨rfl, rfl⟩

theorem reads_readItems_iff {items : List Json} : Reads (readItems rules s) items rest ↔
    (s.dropWhile isSpace = ']' :: rest ∧ items = []) ∨
    ∃ c more, s.dropWhile isSpace = c :: more ∧ c ≠ ']' ∧
      Reads (readSomeItems rules s) items rest := by
  obtain ⟨left, hle, hskip, hdrop⟩ := exists_skip s
  rw [readItems, hskip, hdrop]
  cases left with
  | nil =>
      constructor
      · exact fun h => (not_reads_error h).elim
      · rintro (⟨⟨⟩, -⟩ | ⟨c, more, ⟨⟩, -⟩)
  | cons c more =>
      by_cases hc : c = ']'
      · simp [hc, reads_ok_iff, eq_comm, and_comm]
      · simp [hc]

theorem reads_readSomeItems_iff {items : List Json} : Reads (readSomeItems rules s) items rest ↔
    ∃ item between, Reads (readValue rules s) item between ∧
      ((between.dropWhile isSpace = ']' :: rest ∧ items = [item]) ∨
      ∃ more others, between.dropWhile isSpace = ',' :: more ∧
        Reads (readSomeItems rules more) others rest ∧ items = item :: others) := by
  rw [readSomeItems]
  constructor
  · intro h
    obtain ⟨item, between, hbetween, hitem, h⟩ := h.exists_of_bind
    obtain ⟨left, hle, hskip, hdrop⟩ := exists_skip between
    refine ⟨item, between, hitem, ?_⟩
    dsimp only at h
    rw [hskip] at h
    rw [hdrop]
    cases left with
    | nil => exact (not_reads_error h).elim
    | cons c more =>
        dsimp only at h
        split at h
        · next hc =>
          obtain ⟨rfl, rfl⟩ := reads_ok_iff.mp h
          exact .inl ⟨by rw [hc], rfl⟩
        · split at h
          · next hc =>
            obtain ⟨others, last, hlast, hothers, h⟩ := h.exists_of_bind
            obtain ⟨rfl, rfl⟩ := reads_ok_iff.mp h
            exact .inr ⟨more, others, by rw [hc], hothers, rfl⟩
          · exact (not_reads_error h).elim
  · rintro ⟨item, between, hitem, hmore⟩
    obtain ⟨left, hle, hskip, hdrop⟩ := exists_skip between
    apply hitem.bind
    intro hbetween
    dsimp only
    rw [hskip]
    rw [hdrop] at hmore
    rcases hmore with ⟨rfl, rfl⟩ | ⟨more, others, rfl, hothers, rfl⟩
    · exact reads_ok_iff.mpr ⟨rfl, rfl⟩
    · exact hothers.bind fun _ => reads_ok_iff.mpr ⟨rfl, rfl⟩

theorem exists_readColon_iff :
    (∃ left, readColon s = .ok left ∧ left.1 = rest) ↔ s.dropWhile isSpace = ':' :: rest := by
  obtain ⟨left, hle, hskip, hdrop⟩ := exists_skip s
  rw [readColon, hskip, hdrop]
  cases left with
  | nil => simp
  | cons c more =>
      by_cases hc : c = ':'
      · simp [hc]
      · simp [hc]

theorem reads_readName_iff {name : String} : Reads (readName rules s) name rest ↔
    ∃ more cs between, s.dropWhile isSpace = '"' :: more ∧
      Reads (readString rules more) cs between ∧ between.dropWhile isSpace = ':' :: rest ∧
      name = String.ofList cs := by
  obtain ⟨left, hle, hskip, hdrop⟩ := exists_skip s
  rw [readName, hskip, hdrop]
  cases left with
  | nil =>
      constructor
      · exact fun h => (not_reads_error h).elim
      · rintro ⟨more, cs, between, ⟨⟩, -⟩
  | cons c more =>
      dsimp only
      by_cases hc : c = '"'
      · rw [if_pos hc]
        constructor
        · intro h
          obtain ⟨cs, between, hbetween, hcs, h⟩ := h.exists_of_bind
          dsimp only at h
          cases hcolon : readColon between with
          | error fault =>
              rw [hcolon] at h
              exact (not_reads_error h).elim
          | ok left =>
              rw [hcolon] at h
              obtain ⟨rfl, rfl⟩ := reads_ok_iff.mp h
              exact ⟨more, cs, between, by rw [hc], hcs,
                exists_readColon_iff.mp ⟨left, hcolon, rfl⟩, rfl⟩
        · rintro ⟨_, cs, between, heq, hcs, hcolon, rfl⟩
          obtain rfl := (List.cons.inj heq).2
          obtain ⟨left, hread, rfl⟩ := exists_readColon_iff.mpr hcolon
          apply hcs.bind
          intro hbetween
          dsimp only
          rw [hread]
          exact reads_ok_iff.mpr ⟨rfl, rfl⟩
      · rw [if_neg hc]
        constructor
        · exact fun h => (not_reads_error h).elim
        · rintro ⟨_, cs, between, hquote, -⟩
          exact absurd (List.cons.inj hquote).1 hc

variable {rulesFor : String → Rules} {fields : List (String × Json)}

theorem reads_readFields_iff : Reads (readFields rules rulesFor s) fields rest ↔
    (s.dropWhile isSpace = '\x7d' :: rest ∧ fields = []) ∨
    ∃ c more, s.dropWhile isSpace = c :: more ∧ c ≠ '\x7d' ∧
      Reads (readSomeFields rules rulesFor s) fields rest := by
  obtain ⟨left, hle, hskip, hdrop⟩ := exists_skip s
  rw [readFields, hskip, hdrop]
  cases left with
  | nil =>
      constructor
      · exact fun h => (not_reads_error h).elim
      · rintro (⟨⟨⟩, -⟩ | ⟨c, more, ⟨⟩, -⟩)
  | cons c more =>
      by_cases hc : c = '\x7d'
      · simp [hc, reads_ok_iff, eq_comm, and_comm]
      · simp [hc]

theorem reads_readSomeFields_iff : Reads (readSomeFields rules rulesFor s) fields rest ↔
    ∃ name value between after, Reads (readName rules s) name between ∧
      Reads (readValue (rulesFor name) between) value after ∧
      ((after.dropWhile isSpace = '\x7d' :: rest ∧ fields = [(name, value)]) ∨
      ∃ more others, after.dropWhile isSpace = ',' :: more ∧
        Reads (readSomeFields rules rulesFor more) others rest ∧
        fields = (name, value) :: others) := by
  rw [readSomeFields]
  constructor
  · intro h
    obtain ⟨name, between, hbetween, hname, h⟩ := h.exists_of_bind
    obtain ⟨value, after, hafter, hvalue, h⟩ := h.exists_of_bind
    obtain ⟨left, hle, hskip, hdrop⟩ := exists_skip after
    refine ⟨name, value, between, after, hname, hvalue, ?_⟩
    dsimp only at h
    rw [hskip] at h
    rw [hdrop]
    cases left with
    | nil => exact (not_reads_error h).elim
    | cons c more =>
        dsimp only at h
        split at h
        · next hc =>
          obtain ⟨rfl, rfl⟩ := reads_ok_iff.mp h
          exact .inl ⟨by rw [hc], rfl⟩
        · split at h
          · next hc =>
            obtain ⟨others, last, hlast, hothers, h⟩ := h.exists_of_bind
            obtain ⟨rfl, rfl⟩ := reads_ok_iff.mp h
            exact .inr ⟨more, others, by rw [hc], hothers, rfl⟩
          · exact (not_reads_error h).elim
  · rintro ⟨name, value, between, after, hname, hvalue, hmore⟩
    obtain ⟨left, hle, hskip, hdrop⟩ := exists_skip after
    apply hname.bind
    intro hbetween
    apply hvalue.bind
    intro hafter
    dsimp only
    rw [hskip]
    rw [hdrop] at hmore
    rcases hmore with ⟨rfl, rfl⟩ | ⟨more, others, rfl, hothers, rfl⟩
    · exact reads_ok_iff.mpr ⟨rfl, rfl⟩
    · exact hothers.bind fun _ => reads_ok_iff.mpr ⟨rfl, rfl⟩

end Readers

/-! ### From the grammar to values -/

theorem ends_number {c : Char} (hc : isSpace c = true ∨ c ∈ [']', '\x7d', ',']) :
    Text.isDigit c = false ∧ c ≠ '.' ∧ c ≠ 'e' ∧ c ≠ 'E' := by
  simp only [isSpace, Bool.or_eq_true, beq_iff_eq, List.mem_cons, List.not_mem_nil,
    or_false] at hc
  rcases hc with (((rfl | rfl) | rfl) | rfl) | rfl | rfl | rfl <;> decide

theorem Gap.endsNumber {gap : List Char} (hgap : Gap gap) : EndsNumber gap :=
  fun _ hc => ends_number (.inl (hgap _ (List.mem_of_head? hc)))

theorem endsNumber_gap {gap : List Char} (hgap : Gap gap) {c : Char}
    (hc : c ∈ [']', '\x7d', ',']) (rest : List Char) : EndsNumber (gap ++ c :: rest) := by
  intro d hd
  cases gap with
  | nil =>
      cases hd
      exact ends_number (.inr hc)
  | cons e gap =>
      rw [List.cons_append, List.head?_cons, Option.mem_some_iff] at hd
      exact hd ▸ ends_number (.inl (hgap e List.mem_cons_self))

theorem WritesName.head {name : String} {text : List Char} (h : WritesName name text)
    (rest : List Char) : ∃ more, (text ++ rest).dropWhile isSpace = '"' :: more := by
  obtain ⟨hbefore, h, hafter⟩ := h
  rw [List.append_assoc]
  exact ⟨_, dropWhile_gap hbefore rfl _⟩

theorem WritesName.reads {name : String} {text : List Char} (h : WritesName name text)
    (rules : Rules) (rest : List Char) : Reads (readName rules (text ++ rest)) name rest := by
  obtain ⟨hbefore, h, hafter⟩ := h
  rw [List.append_assoc, List.cons_append, List.append_assoc, List.cons_append, List.append_assoc,
    List.singleton_append]
  exact reads_readName_iff.mpr ⟨_, _, _, dropWhile_gap hbefore rfl _, h.readString rules _,
    dropWhile_gap hafter rfl _, rfl⟩

theorem readFrom_digit {rules : Rules} {c : Char} (hc : Text.isDigit c = true) (s : List Char) :
    readFrom rules c s = (readNumber rules false [c] s).map fun (n, r) => (number n, r) := by
  have hother : ∀ {d : Char}, Text.isDigit d = false → c ≠ d := by
    rintro d hd rfl
    cases hd.symm.trans hc
  rw [readFrom, if_neg (hother (by decide)), if_neg (hother (by decide)),
    if_neg (hother (by decide)), if_neg (hother (by decide)), if_neg (hother (by decide)),
    if_pos hc]

theorem not_isSpace_of_isDigit {c : Char} (hc : Text.isDigit c = true) : isSpace c = false := by
  rw [Bool.eq_false_iff]
  intro hspace
  simp only [isSpace, Bool.or_eq_true, beq_iff_eq] at hspace
  rcases hspace with ((rfl | rfl) | rfl) | rfl <;> cases hc

theorem WritesNumber.reads {rules : Rules} {n : Number} {text : List Char}
    (h : WritesNumber rules n text) :
    ∃ c more, text = c :: more ∧ isSpace c = false ∧ c ≠ ']' ∧
      ∀ rest, EndsNumber rest → Reads (readFrom rules c (more ++ rest)) (number n) rest := by
  obtain ⟨hdigits, hwhole, hfraction, hexponent, hfinite⟩ := h
  cases hnegative : n.negative with
  | true =>
      refine ⟨'-', _, rfl, rfl, by decide, ?_⟩
      intro rest hrest
      have hread := reads_readNumber [] rfl hdigits hwhole hfraction hexponent hfinite
        hrest
      rw [hnegative] at hread
      rw [readFrom, if_neg (by decide), if_neg (by decide), if_neg (by decide),
        if_neg (by decide), if_pos rfl, List.append_eq, List.nil_append, List.append_assoc,
        List.append_assoc]
      exact hread.map number fun _ => ⟨rfl, rfl⟩
  | false =>
      cases hsplit : n.whole with
      | nil =>
          rw [hsplit] at hwhole
          cases hwhole
      | cons first digits =>
          have hfirst : Text.isDigit first = true :=
            hdigits first (hsplit ▸ List.mem_cons_self)
          have hbracket : first ≠ ']' := by
            rintro rfl
            cases hfirst
          refine ⟨first, _, rfl, not_isSpace_of_isDigit hfirst, hbracket, ?_⟩
          intro rest hrest
          have hread := reads_readNumber [first] hsplit hdigits hwhole hfraction
            hexponent hfinite hrest
          rw [hnegative] at hread
          rw [readFrom_digit hfirst, List.append_eq, List.append_assoc, List.append_assoc]
          exact hread.map number fun _ => ⟨rfl, rfl⟩

/-- The text does not go on with the value. Only a number may go on. -/
def Ends (j : Json) (rest : List Char) : Prop :=
  ∀ n, j = number n → EndsNumber rest

theorem EndsNumber.ends {rest : List Char} (h : EndsNumber rest) (j : Json) : Ends j rest :=
  fun _ _ => h

/-- A value ends before a gap and what stands behind a value in an array or in an object. -/
theorem ends_gap {j : Json} {gap : List Char} (hgap : Gap gap) {c : Char}
    (hc : c ∈ [']', '\x7d', ',']) (rest : List Char) : Ends j (gap ++ c :: rest) :=
  fun _ _ => endsNumber_gap hgap hc rest

/-- A text that is read as this part of a document, whatever follows it. -/
def Phrase.IsReadFrom (text : List Char) : Phrase → Prop
  | value rules j => ∃ c more, text = c :: more ∧ isSpace c = false ∧ c ≠ ']' ∧
      ∀ rest, Ends j rest → Reads (readFrom rules c (more ++ rest)) j rest
  | items rules list => ∀ rest, Reads (readItems rules (text ++ rest)) list rest
  | someItems rules list => ∀ rest,
      (∃ c more, (text ++ rest).dropWhile isSpace = c :: more ∧ c ≠ ']') ∧
        Reads (readSomeItems rules (text ++ rest)) list rest
  | fields rulesFor list =>
      ∀ rules rest, Reads (readFields rules rulesFor (text ++ rest)) list rest
  | someFields rulesFor list => ∀ rules rest,
      (∃ more, (text ++ rest).dropWhile isSpace = '"' :: more) ∧
        Reads (readSomeFields rules rulesFor (text ++ rest)) list rest

theorem Phrase.IsReadFrom.value {rules : Rules} {j : Json} {text before rest : List Char}
    (h : (Phrase.value rules j).IsReadFrom text) (hbefore : Gap before) (hrest : Ends j rest) :
    (∃ c more, (before ++ (text ++ rest)).dropWhile isSpace = c :: more ∧ c ≠ ']') ∧
      Reads (readValue rules (before ++ (text ++ rest))) j rest := by
  obtain ⟨c, more, rfl, hc, hbracket, hread⟩ := h
  have hdrop := dropWhile_gap hbefore hc (more ++ rest)
  exact ⟨⟨c, _, hdrop, hbracket⟩, reads_readValue_iff.mpr ⟨c, _, hdrop, hread rest hrest⟩⟩

/-- Every text of the grammar is read, with one case for each rule of the grammar. -/
theorem Writes.isReadFrom {phrase : Phrase} {text : List Char} (h : Writes phrase text) :
    phrase.IsReadFrom text := by
  induction h with
  | null =>
      refine ⟨_, _, rfl, rfl, by decide, fun rest _ => ?_⟩
      rw [readFrom, if_pos rfl]
      exact reads_ok_iff.mpr ⟨rfl, rfl⟩
  | bool_true =>
      refine ⟨_, _, rfl, rfl, by decide, fun rest _ => ?_⟩
      rw [readFrom, if_neg (by decide), if_pos rfl]
      exact reads_ok_iff.mpr ⟨rfl, rfl⟩
  | bool_false =>
      refine ⟨_, _, rfl, rfl, by decide, fun rest _ => ?_⟩
      rw [readFrom, if_neg (by decide), if_neg (by decide), if_pos rfl]
      exact reads_ok_iff.mpr ⟨rfl, rfl⟩
  | number h =>
      obtain ⟨c, more, htext, hspace, hbracket, hread⟩ := h.reads
      exact ⟨c, more, htext, hspace, hbracket, fun rest hrest => hread rest (hrest _ rfl)⟩
  | @str rules cs body h =>
      refine ⟨_, _, rfl, rfl, by decide, fun rest _ => ?_⟩
      rw [readFrom, if_neg (by decide), if_neg (by decide), if_neg (by decide), if_pos rfl,
        List.append_assoc, List.singleton_append]
      exact (h.readString rules rest).map (fun cs => Json.str (String.ofList cs))
        fun _ => ⟨rfl, rfl⟩
  | array henter h ih =>
      refine ⟨_, _, rfl, rfl, by decide, fun rest _ => ?_⟩
      rw [readFrom, if_neg (by decide), if_neg (by decide), if_neg (by decide),
        if_neg (by decide), if_neg (by decide), if_neg (by decide), if_pos rfl, henter]
      exact (ih rest).map Json.array fun _ => ⟨rfl, rfl⟩
  | object henter h ih =>
      refine ⟨_, _, rfl, rfl, by decide, fun rest _ => ?_⟩
      rw [readFrom, if_neg (by decide), if_neg (by decide), if_neg (by decide),
        if_neg (by decide), if_neg (by decide), if_neg (by decide), if_neg (by decide),
        if_pos rfl, henter]
      exact (ih _ rest).map Json.object fun _ => ⟨rfl, rfl⟩
  | noItem hgap =>
      intro rest
      rw [List.append_assoc]
      exact reads_readItems_iff.mpr (.inl ⟨dropWhile_gap hgap rfl rest, rfl⟩)
  | items h ih =>
      intro rest
      obtain ⟨⟨c, more, hdrop, hbracket⟩, hread⟩ := ih rest
      exact reads_readItems_iff.mpr (.inr ⟨c, more, hdrop, hbracket, hread⟩)
  | lastItem hbefore h hafter ih =>
      intro rest
      rw [List.append_assoc, List.append_assoc, List.append_assoc, List.singleton_append]
      obtain ⟨hhead, hread⟩ := ih.value hbefore (ends_gap hafter (by decide : ']' ∈ _) rest)
      exact ⟨hhead, reads_readSomeItems_iff.mpr
        ⟨_, _, hread, .inl ⟨dropWhile_gap hafter rfl rest, rfl⟩⟩⟩
  | nextItem hbefore h hafter hmore ih ihmore =>
      intro rest
      rw [List.append_assoc, List.append_assoc, List.append_assoc, List.cons_append]
      obtain ⟨hhead, hread⟩ := ih.value hbefore (ends_gap hafter (by decide : ',' ∈ _) _)
      exact ⟨hhead, reads_readSomeItems_iff.mpr
        ⟨_, _, hread, .inr ⟨_, _, dropWhile_gap hafter rfl _, (ihmore rest).2, rfl⟩⟩⟩
  | noField hgap =>
      intro rules rest
      rw [List.append_assoc]
      exact reads_readFields_iff.mpr (.inl ⟨dropWhile_gap hgap rfl rest, rfl⟩)
  | fields h ih =>
      intro rules rest
      obtain ⟨⟨more, hdrop⟩, hread⟩ := ih rules rest
      exact reads_readFields_iff.mpr (.inr ⟨'"', more, hdrop, by decide, hread⟩)
  | lastField hname hbefore h hafter ih =>
      intro rules rest
      rw [List.append_assoc, List.append_assoc, List.append_assoc, List.append_assoc,
        List.singleton_append]
      obtain ⟨-, hread⟩ := ih.value hbefore (ends_gap hafter (by decide : '\x7d' ∈ _) rest)
      exact ⟨hname.head _, reads_readSomeFields_iff.mpr ⟨_, _, _, _, hname.reads rules _, hread,
        .inl ⟨dropWhile_gap hafter rfl rest, rfl⟩⟩⟩
  | nextField hname hbefore h hafter hmore ih ihmore =>
      intro rules rest
      rw [List.append_assoc, List.append_assoc, List.append_assoc, List.append_assoc,
        List.cons_append]
      obtain ⟨-, hread⟩ := ih.value hbefore (ends_gap hafter (by decide : ',' ∈ _) _)
      exact ⟨hname.head _, reads_readSomeFields_iff.mpr ⟨_, _, _, _, hname.reads rules _, hread,
        .inr ⟨_, _, dropWhile_gap hafter rfl _, (ihmore rules rest).2, rfl⟩⟩⟩

theorem Writes.readValue {rules : Rules} {j : Json} {text before rest : List Char}
    (h : Writes (.value rules j) text) (hbefore : Gap before) (hrest : Ends j rest) :
    Reads (readValue rules (before ++ (text ++ rest))) j rest :=
  (h.isReadFrom.value hbefore hrest).2

/-! ### From values to the grammar -/

theorem eq_of_readIdent {name s rest : List Char} {value j : Json}
    (h : Reads (readIdent name value s) j rest) : j = value ∧ s = name ++ rest := by
  rw [readIdent] at h
  split at h
  · next hprefix =>
    obtain ⟨more, rfl⟩ := List.isPrefixOf_iff_prefix.mp hprefix
    have hrest : (name ++ more).drop name.length = rest := (reads_ok_iff.mp h).2
    rw [List.drop_left] at hrest
    exact ⟨(reads_ok_iff.mp h).1.symm, by rw [hrest]⟩
  · exact (not_reads_error h).elim

theorem Rules.paired_enter? {rules inner : Rules} (h : rules.enter? = some inner) :
    inner.paired = rules.paired := by
  unfold Rules.enter? at h
  split at h
  · cases h
    rfl
  · cases h
  · cases h
    rfl

theorem writes_of_readName {rules : Rules} (hpaired : rules.paired = true) {s rest : List Char}
    {name : String} (h : Reads (readName rules s) name rest) :
    ∃ text, WritesName name text ∧ s = text ++ rest := by
  obtain ⟨more, cs, between, hquote, hcs, hcolon, rfl⟩ := reads_readName_iff.mp h
  obtain ⟨before, hbefore, -, rfl⟩ := exists_gap hquote
  obtain ⟨body, hbody, rfl⟩ := spellsAll_of_readString hpaired hcs
  obtain ⟨after, hafter, -, rfl⟩ := exists_gap hcolon
  exact ⟨_, .mk hbefore hbody hafter, by simp⟩

theorem length_lt_of_dropWhile {s more : List Char} {c : Char}
    (h : s.dropWhile isSpace = c :: more) : more.length < s.length := by
  have hle := (List.dropWhile_suffix isSpace (l := s)).length_le
  rw [h] at hle
  exact hle

/-! The recursion is that of the reader. -/

mutual

theorem writes_of_readValue {rules : Rules} (hpaired : rules.paired = true) {s rest : List Char}
    {j : Json} (h : Reads (readValue rules s) j rest) :
    ∃ gap text, Gap gap ∧ Writes (.value rules j) text ∧ s = gap ++ (text ++ rest) := by
  obtain ⟨c, more, hdrop, hread⟩ := reads_readValue_iff.mp h
  have hshorter := length_lt_of_dropWhile hdrop
  obtain ⟨text, htext, rfl⟩ := writes_of_readFrom hpaired hread
  obtain ⟨gap, hgap, -, hs⟩ := exists_gap hdrop
  exact ⟨gap, c :: text, hgap, htext, hs⟩
termination_by (s.length, 0)

theorem writes_of_readFrom {rules : Rules} (hpaired : rules.paired = true) {c : Char}
    {s rest : List Char} {j : Json} (h : Reads (readFrom rules c s) j rest) :
    ∃ text, Writes (.value rules j) (c :: text) ∧ s = text ++ rest := by
  -- The first character decides, in the order in which the reader tries them: `null`, `true`,
  -- `false`, a string, a negative number, another number, an array, an object.
  rw [readFrom] at h
  split at h
  · next hc =>
    obtain ⟨rfl, rfl⟩ := eq_of_readIdent h
    exact ⟨_, hc ▸ .null, rfl⟩
  split at h
  · next hc =>
    obtain ⟨rfl, rfl⟩ := eq_of_readIdent h
    exact ⟨_, hc ▸ .bool_true, rfl⟩
  split at h
  · next hc =>
    obtain ⟨rfl, rfl⟩ := eq_of_readIdent h
    exact ⟨_, hc ▸ .bool_false, rfl⟩
  split at h
  · next hc =>
    obtain ⟨cs, hcs, rfl⟩ := h.exists_of_map (fun cs => str (String.ofList cs)) fun _ => ⟨rfl, rfl⟩
    obtain ⟨body, hbody, rfl⟩ := spellsAll_of_readString hpaired hcs
    refine ⟨body ++ ['"'], ?_, by simp⟩
    rw [hc]
    exact .str hbody
  split at h
  · next hc =>
    obtain ⟨n, hn, rfl⟩ := h.exists_of_map number fun _ => ⟨rfl, rfl⟩
    obtain ⟨text, htext, rfl⟩ := writes_of_readNumber (by rintro _ ⟨⟩) hn
    exact ⟨text, hc ▸ .number htext, rfl⟩
  split at h
  · next hdigit =>
    obtain ⟨n, hn, rfl⟩ := h.exists_of_map number fun _ => ⟨rfl, rfl⟩
    obtain ⟨text, htext, rfl⟩ := writes_of_readNumber (by simpa using hdigit) hn
    exact ⟨text, .number htext, rfl⟩
  split at h
  · next hc =>
    cases henter : rules.enter? with
    | none =>
        rw [henter] at h
        exact (not_reads_error h).elim
    | some inner =>
        rw [henter] at h
        obtain ⟨items, hitems, rfl⟩ := h.exists_of_map array fun _ => ⟨rfl, rfl⟩
        obtain ⟨text, htext, rfl⟩ :=
          writes_of_readItems ((Rules.paired_enter? henter).trans hpaired) hitems
        exact ⟨text, hc ▸ .array henter htext, rfl⟩
  split at h
  · next hc =>
    cases henter : rules.enter? with
    | none =>
        rw [henter] at h
        exact (not_reads_error h).elim
    | some inner =>
        rw [henter] at h
        have hinner := (Rules.paired_enter? henter).trans hpaired
        obtain ⟨fields, hfields, rfl⟩ := h.exists_of_map object fun _ => ⟨rfl, rfl⟩
        obtain ⟨text, htext, rfl⟩ := writes_of_readFields hinner (fun _ => hinner) hfields
        exact ⟨text, hc ▸ .object henter htext, rfl⟩
  · exact (not_reads_error h).elim
termination_by (s.length, 4)

theorem writes_of_readItems {rules : Rules} (hpaired : rules.paired = true) {s rest : List Char}
    {items : List Json} (h : Reads (readItems rules s) items rest) :
    ∃ text, Writes (.items rules items) text ∧ s = text ++ rest := by
  rcases reads_readItems_iff.mp h with ⟨hdrop, rfl⟩ | ⟨c, more, -, -, hsome⟩
  · obtain ⟨gap, hgap, -, rfl⟩ := exists_gap hdrop
    exact ⟨_, .noItem hgap, by simp⟩
  · obtain ⟨text, htext, hs⟩ := writes_of_readSomeItems hpaired hsome
    exact ⟨text, .items htext, hs⟩
termination_by (s.length, 3)

theorem writes_of_readSomeItems {rules : Rules} (hpaired : rules.paired = true)
    {s rest : List Char} {items : List Json} (h : Reads (readSomeItems rules s) items rest) :
    ∃ text, Writes (.someItems rules items) text ∧ s = text ++ rest := by
  obtain ⟨item, between, hitem, hmore⟩ := reads_readSomeItems_iff.mp h
  have hbetween : between.length < s.length := hitem.left
  obtain ⟨before, text, hbefore, htext, hs⟩ := writes_of_readValue hpaired hitem
  rcases hmore with ⟨hdrop, rfl⟩ | ⟨more, others, hdrop, hothers, rfl⟩
  · obtain ⟨after, hafter, -, rfl⟩ := exists_gap hdrop
    exact ⟨_, .lastItem hbefore htext hafter, by simp [hs]⟩
  · have hshorter : more.length < s.length := (length_lt_of_dropWhile hdrop).trans hbetween
    obtain ⟨after, hafter, -, rfl⟩ := exists_gap hdrop
    obtain ⟨moreText, hmoreText, rfl⟩ := writes_of_readSomeItems hpaired hothers
    exact ⟨_, .nextItem hbefore htext hafter hmoreText, by simp [hs]⟩
termination_by (s.length, 2)

theorem writes_of_readFields {rules : Rules} (hpaired : rules.paired = true)
    {rulesFor : String → Rules} (hvalues : ∀ name, (rulesFor name).paired = true)
    {s rest : List Char} {fields : List (String × Json)}
    (h : Reads (readFields rules rulesFor s) fields rest) :
    ∃ text, Writes (.fields rulesFor fields) text ∧ s = text ++ rest := by
  rcases reads_readFields_iff.mp h with ⟨hdrop, rfl⟩ | ⟨c, more, -, -, hsome⟩
  · obtain ⟨gap, hgap, -, rfl⟩ := exists_gap hdrop
    exact ⟨_, .noField hgap, by simp⟩
  · obtain ⟨text, htext, hs⟩ := writes_of_readSomeFields hpaired hvalues hsome
    exact ⟨text, .fields htext, hs⟩
termination_by (s.length, 3)

theorem writes_of_readSomeFields {rules : Rules} (hpaired : rules.paired = true)
    {rulesFor : String → Rules} (hvalues : ∀ name, (rulesFor name).paired = true)
    {s rest : List Char} {fields : List (String × Json)}
    (h : Reads (readSomeFields rules rulesFor s) fields rest) :
    ∃ text, Writes (.someFields rulesFor fields) text ∧ s = text ++ rest := by
  obtain ⟨name, value, between, last, hname, hvalue, hmore⟩ := reads_readSomeFields_iff.mp h
  have hbetween : between.length < s.length := hname.left
  have hlast : last.length < between.length := hvalue.left
  obtain ⟨nameText, hname, hs⟩ := writes_of_readName hpaired hname
  obtain ⟨before, text, hbefore, htext, htextSplit⟩ := writes_of_readValue (hvalues name) hvalue
  rcases hmore with ⟨hdrop, rfl⟩ | ⟨more, others, hdrop, hothers, rfl⟩
  · obtain ⟨after, hafter, -, rfl⟩ := exists_gap hdrop
    exact ⟨_, .lastField hname hbefore htext hafter, by simp [hs, htextSplit]⟩
  · have hshorter : more.length < s.length :=
      (length_lt_of_dropWhile hdrop).trans (hlast.trans hbetween)
    obtain ⟨after, hafter, -, rfl⟩ := exists_gap hdrop
    obtain ⟨moreText, hmoreText, rfl⟩ := writes_of_readSomeFields hpaired hvalues hothers
    exact ⟨_, .nextField hname hbefore htext hafter hmoreText, by simp [hs, htextSplit]⟩
termination_by (s.length, 2)

end

/-! ### Looser rules -/

/-- What the strong rules let stand, the weak ones let stand as well. -/
structure Rules.Weaker (weak strong : Rules) : Prop where
  depth : ∀ n ∈ weak.depth, ∃ m ∈ strong.depth, m ≤ n
  finite : weak.finite = true → strong.finite = true

theorem Rules.Weaker.enter? {weak strong inner : Rules} (h : weak.Weaker strong)
    (henter : strong.enter? = some inner) :
    ∃ weakInner, weak.enter? = some weakInner ∧ weakInner.Weaker inner := by
  have hinner : inner.finite = strong.finite ∧
      ∀ m ∈ strong.depth, ∃ k, m = k + 1 ∧ inner.depth = some k := by
    unfold Rules.enter? at henter
    split at henter
    · next hdepth =>
      cases henter
      exact ⟨rfl, fun m hm => absurd (hdepth.symm.trans hm) (by simp)⟩
    · cases henter
    · next k hdepth =>
      cases henter
      exact ⟨rfl, fun m hm => ⟨k, Option.some.inj (hm.symm.trans hdepth), rfl⟩⟩
  obtain ⟨hfinite, hdepth⟩ := hinner
  cases hweak : weak.depth with
  | none =>
      refine ⟨weak, by rw [Rules.enter?, hweak], ?_, fun hf => hfinite.trans (h.finite hf)⟩
      rintro n hn
      cases hweak.symm.trans hn
  | some n =>
      obtain ⟨m, hm, hle⟩ := h.depth n hweak
      obtain ⟨k, rfl, hk⟩ := hdepth m hm
      obtain ⟨l, rfl⟩ := Nat.exists_eq_add_one_of_ne_zero (show n ≠ 0 by omega)
      refine ⟨{ weak with depth := some l }, by rw [Rules.enter?, hweak], ?_,
        fun hf => hfinite.trans (h.finite hf)⟩
      rintro _ ⟨⟩
      exact ⟨k, hk, Nat.le_of_succ_le_succ hle⟩

/-- The text stands for this part of a document by all weaker rules. -/
def Phrase.Loosely (text : List Char) : Phrase → Prop
  | value rules j => ∀ weak : Rules, weak.Weaker rules → Writes (.value weak j) text
  | items rules list => ∀ weak : Rules, weak.Weaker rules → Writes (.items weak list) text
  | someItems rules list => ∀ weak : Rules, weak.Weaker rules → Writes (.someItems weak list) text
  | fields rulesFor list => ∀ weakFor : String → Rules,
      (∀ name, (weakFor name).Weaker (rulesFor name)) → Writes (.fields weakFor list) text
  | someFields rulesFor list => ∀ weakFor : String → Rules,
      (∀ name, (weakFor name).Weaker (rulesFor name)) → Writes (.someFields weakFor list) text

theorem Writes.loosely {phrase : Phrase} {text : List Char} (h : Writes phrase text) :
    phrase.Loosely text := by
  induction h with
  | null => exact fun _ _ => .null
  | bool_true => exact fun _ _ => .bool_true
  | bool_false => exact fun _ _ => .bool_false
  | number h =>
      intro weak hweak
      obtain ⟨hdigits, hwhole, hfraction, hexponent, hfinite⟩ := h
      exact .number (.mk hdigits hwhole hfraction hexponent fun hf => hfinite (hweak.finite hf))
  | str h => exact fun _ _ => .str h
  | array henter h ih =>
      intro weak hweak
      obtain ⟨inner, henter, hinner⟩ := hweak.enter? henter
      exact .array henter (ih inner hinner)
  | object henter h ih =>
      intro weak hweak
      obtain ⟨inner, henter, hinner⟩ := hweak.enter? henter
      exact .object henter (ih _ fun _ => hinner)
  | noItem hgap => exact fun _ _ => .noItem hgap
  | items h ih => exact fun weak hweak => .items (ih weak hweak)
  | lastItem hbefore h hafter ih =>
      exact fun weak hweak => .lastItem hbefore (ih weak hweak) hafter
  | nextItem hbefore h hafter hmore ih ihmore =>
      exact fun weak hweak => .nextItem hbefore (ih weak hweak) hafter (ihmore weak hweak)
  | noField hgap => exact fun _ _ => .noField hgap
  | fields h ih => exact fun weakFor hweak => .fields (ih weakFor hweak)
  | lastField hname hbefore h hafter ih =>
      exact fun weakFor hweak => .lastField hname hbefore (ih _ (hweak _)) hafter
  | nextField hname hbefore h hafter hmore ih ihmore =>
      exact fun weakFor hweak =>
        .nextField hname hbefore (ih _ (hweak _)) hafter (ihmore weakFor hweak)

/-! ### Documents -/

theorem atEnd_gap {α : Type} {gap : List Char} (hgap : Gap gap) (a : α) : atEnd a gap = .ok a := by
  obtain ⟨left, hle, hskip, hdrop⟩ := exists_skip gap
  obtain rfl := hdrop.symm.trans (List.dropWhile_eq_nil_iff.mpr hgap)
  rw [atEnd, hskip]

/-- A text is read as a value if and only if it is a document that stands for the value. -/
theorem read_iff {text : List Char} {j : Json} : read text = .ok j ↔ Document j text := by
  constructor
  · intro h
    rw [read] at h
    split at h
    · cases h
    · next value rest hrest hread =>
      obtain ⟨left, hle, hskip, hdrop⟩ := exists_skip rest
      rw [atEnd, hskip] at h
      cases left with
      | nil =>
          cases h
          have hvalue : Reads (readValue .strict text) j rest := by
            rw [hread]
            exact reads_ok_iff.mpr ⟨rfl, rfl⟩
          obtain ⟨gap, inner, hgap, hinner, rfl⟩ := writes_of_readValue rfl hvalue
          exact .mk hgap hinner (List.dropWhile_eq_nil_iff.mp hdrop)
      | cons c more => cases h
  · rintro ⟨hbefore, h, hafter⟩
    obtain ⟨hrest, hread⟩ := reads_iff.mp (h.readValue hbefore (hafter.endsNumber.ends j))
    rw [read, hread]
    exact atEnd_gap hafter j

/-- A value that is cut off anywhere is no document, unless what is left of it is a number. -/
theorem exists_number_of_cut {j cut : Json} {text rest : List Char}
    (hfull : Writes (.value .strict j) (text ++ rest)) (hrest : rest ≠ [])
    (hcut : Document cut text) : ∃ n, cut = number n := by
  cases hcut with
  | @mk before inner after hbefore h hafter =>
    by_contra hother
    -- Behind the document, the reader would leave the rest of the value unread.
    have hends : Ends cut (after ++ rest) := fun n hn => absurd ⟨n, hn⟩ hother
    have hpart := h.readValue hbefore hends
    have hgap : Gap [] := by rintro _ ⟨⟩
    have hvalue := hfull.readValue hgap (endsNumber_nil.ends j)
    rw [List.nil_append, List.append_nil, List.append_assoc, List.append_assoc] at hvalue
    have hsame := Except.ok.inj (hpart.symm.trans hvalue)
    exact hrest (List.append_eq_nil_iff.mp (Prod.mk.inj hsame).2).2

end ScriptConsole.Json
