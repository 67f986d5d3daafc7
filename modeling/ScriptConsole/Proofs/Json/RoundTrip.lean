import ScriptConsole.Json.Record
import ScriptConsole.Proofs.Json.Grammar

/-!
What messages are made of is read back as it was written: nested values whose numbers are whole
and fit 64 bits. What is written of them is in the grammar, so that it is read.
-/

namespace ScriptConsole.Json

mutual

/-- The value nests at most so deep, and its numbers are whole and below `2 ^ 64`. -/
def Plain : Nat → Json → Prop
  | _, null => True
  | _, bool _ => True
  | _, number n => ∃ k < UInt64.size, n = .ofNat k
  | _, str _ => True
  | 0, array _ => False
  | 0, object _ => False
  | depth + 1, array items => PlainItems depth items
  | depth + 1, object fields => PlainFields depth fields

def PlainItems : Nat → List Json → Prop
  | _, [] => True
  | depth, item :: items => Plain depth item ∧ PlainItems depth items

def PlainFields : Nat → List (String × Json) → Prop
  | _, [] => True
  | depth, (_, value) :: fields => Plain depth value ∧ PlainFields depth fields

end

theorem write_ofNat (n : Nat) : (number (.ofNat n)).write = Text.decimal n := by
  simp [Json.write, Number.write, Number.ofNat, Number.writeExponent]

theorem writes_ofNat (rules : Rules) {n : Nat} (hn : n < UInt64.size) :
    Writes (.value rules (number (.ofNat n))) (number (.ofNat n)).write := by
  have hnumber : WritesNumber rules (.ofNat n) ([] ++ (Text.decimal n ++ ([] ++ []))) :=
    .mk (fun c hc => Text.isDigit_of_mem_decimal hc) (isWhole_decimal n) .none .none
      fun _ => isFinite_ofNat hn
  rw [List.nil_append, List.append_nil, List.append_nil] at hnumber
  rw [write_ofNat]
  exact .number hnumber

theorem writes_str (rules : Rules) (text : String) :
    Writes (.value rules (str text)) (writeString text) := by
  have hwrites := @Writes.str rules _ _ (spellsAll_escape text.toList)
  rwa [String.ofList_toList] at hwrites

theorem writesName_write (name : String) : WritesName name (writeString name ++ [':']) := by
  have hgap : Gap [] := by rintro _ ⟨⟩
  have hname := WritesName.mk hgap (spellsAll_escape name.toList) hgap
  rw [String.ofList_toList, List.nil_append, List.nil_append] at hname
  rwa [writeString, List.cons_append, List.append_assoc, List.singleton_append]

mutual

theorem writes_write {rules : Rules} {depth : Nat} (hdepth : rules.depth = some depth) {j : Json}
    (hj : Plain depth j) : Writes (.value rules j) j.write := by
  cases j with
  | null => exact .null
  | bool b =>
      cases b with
      | true => exact .bool_true
      | false => exact .bool_false
  | number n =>
      obtain ⟨k, hk, rfl⟩ : ∃ k < UInt64.size, n = .ofNat k := by
        cases depth <;> simpa only [Plain] using hj
      exact writes_ofNat rules hk
  | str text => exact writes_str rules text
  | array items =>
      cases depth with
      | zero => exact absurd hj (by simp [Plain])
      | succ depth =>
          have henter : rules.enter? = some { rules with depth := some depth } := by
            simp [Rules.enter?, hdepth]
          have hitems : PlainItems depth items := by simpa only [Plain] using hj
          cases items with
          | nil => exact .array henter (@Writes.noItem _ [] (by rintro _ ⟨⟩))
          | cons item items => exact .array henter (.items (writes_someItems rfl hitems))
  | object fields =>
      cases depth with
      | zero => exact absurd hj (by simp [Plain])
      | succ depth =>
          have henter : rules.enter? = some { rules with depth := some depth } := by
            simp [Rules.enter?, hdepth]
          have hfields : PlainFields depth fields := by simpa only [Plain] using hj
          cases fields with
          | nil => exact .object henter (@Writes.noField _ [] (by rintro _ ⟨⟩))
          | cons field fields => exact .object henter (.fields (writes_someFields rfl hfields))
termination_by (depth, 0, 0)

theorem writes_someItems {rules : Rules} {depth : Nat} (hdepth : rules.depth = some depth)
    {item : Json} {items : List Json} (hitems : PlainItems depth (item :: items)) :
    Writes (.someItems rules (item :: items)) (item.write ++ writeMoreItems items) := by
  have hgap : Gap [] := by rintro _ ⟨⟩
  have hitem := writes_write hdepth hitems.1
  cases items with
  | nil => exact .lastItem hgap hitem hgap
  | cons next items => exact .nextItem hgap hitem hgap (writes_someItems hdepth hitems.2)
termination_by (depth, 1, items.length)

theorem writes_someFields {rules : Rules} {depth : Nat} (hdepth : rules.depth = some depth)
    {name : String} {value : Json} {fields : List (String × Json)}
    (hfields : PlainFields depth ((name, value) :: fields)) :
    Writes (.someFields (fun _ => rules) ((name, value) :: fields))
      (writeString name ++ ':' :: (value.write ++ writeMoreFields fields)) := by
  have hgap : Gap [] := by rintro _ ⟨⟩
  have hname := writesName_write name
  have hvalue := writes_write hdepth hfields.1
  cases fields with
  | nil =>
      have hwrites := @Writes.lastField (fun _ => rules) _ _ _ _ _ _ hname hgap hvalue hgap
      rwa [List.append_assoc, List.singleton_append] at hwrites
  | cons next fields =>
      have hwrites := @Writes.nextField (fun _ => rules) _ _ _ _ _ _ _ _ hname hgap hvalue hgap
        (writes_someFields hdepth hfields.2)
      rwa [List.append_assoc, List.singleton_append] at hwrites
termination_by (depth, 1, fields.length)

end

theorem document_write {j : Json} (hj : Plain 127 j) : Document j j.write := by
  have hgap : Gap [] := by rintro _ ⟨⟩
  have hdocument := Document.mk hgap (@writes_write .strict _ rfl _ hj) hgap
  rwa [List.nil_append, List.append_nil] at hdocument

theorem read_write {j : Json} (hj : Plain 127 j) : read j.write = .ok j :=
  read_iff.mpr (document_write hj)

/-! ### Values of fields -/

theorem plain_ofTexts (texts : List String) (depth : Nat) : Plain (depth + 1) (ofTexts texts) := by
  change PlainItems depth (texts.map str)
  induction texts with
  | nil => trivial
  | cons text texts ih => exact ⟨by cases depth <;> trivial, ih⟩

theorem toTexts_ofTexts (texts : List String) : toTexts? (ofTexts texts) = some texts := by
  change (texts.map str).mapM toText? = some texts
  induction texts with
  | nil => rfl
  | cons text texts ih => simp [toText?, ih]

/-- A number of 64 bits. -/
def ofUInt64 (n : UInt64) : Json :=
  ofNat n.toNat

theorem plain_ofUInt64 (n : UInt64) (depth : Nat) : Plain depth (ofUInt64 n) := by
  cases depth <;> exact ⟨_, n.toNat_lt_size, rfl⟩

theorem plain_ofOption (limit : Option UInt64) (depth : Nat) :
    Plain depth (ofOption ofUInt64 limit) := by
  cases limit with
  | none => cases depth <;> trivial
  | some n => exact plain_ofUInt64 n depth

theorem toUInt64_ofUInt64 (n : UInt64) : toUInt64? (ofUInt64 n) = some n :=
  toUInt64_ofNat n

theorem toOption_ofOption (limit : Option UInt64) :
    toOption? toUInt64? (ofOption ofUInt64 limit) = some limit := by
  cases limit with
  | none => rfl
  | some n =>
      change (toUInt64? (ofUInt64 n)).map some = _
      rw [toUInt64_ofUInt64]
      rfl

end ScriptConsole.Json
