import ScriptConsole.Config
import ScriptConsole.Proofs.Json.RoundTrip

/-!
Configuration files. A file gives any of the fields of a configuration, in any order and among
fields that nobody knows; what it does not give is as in the default configuration. What is written
of a configuration gives all of its fields.
-/

namespace ScriptConsole

namespace Json

/-! ### Records of which some fields are given -/

/-- The fields that have a value. -/
def given (slots : List (String × Option Json)) : List (String × Json) :=
  slots.filterMap fun slot => slot.2.map (slot.1, ·)

theorem given_cons (slot : String × Option Json) (slots : List (String × Option Json)) :
    given (slot :: slots) = slot.2.toList.map (slot.1, ·) ++ given slots := by
  rw [given, List.filterMap_cons]
  cases slot.2 <;> rfl

theorem mem_given {slots : List (String × Option Json)} {field : String × Json}
    (h : field ∈ given slots) : field.1 ∈ slots.map Prod.fst := by
  obtain ⟨slot, hslot, hfield⟩ := List.mem_filterMap.mp h
  obtain ⟨value, -, rfl⟩ := Option.map_eq_some_iff.mp hfield
  exact List.mem_map_of_mem hslot

theorem filter_given {slots : List (String × Option Json)} (hnodup : (slots.map Prod.fst).Nodup)
    {slot : String × Option Json} (hslot : slot ∈ slots) :
    (given slots).filter (fun field => field.1 == slot.1) = slot.2.toList.map (slot.1, ·) := by
  induction slots with
  | nil => cases hslot
  | cons first slots ih =>
      obtain ⟨hfirst, hnodup⟩ := List.nodup_cons.mp hnodup
      rw [given_cons, List.filter_append]
      rcases List.mem_cons.mp hslot with rfl | hslot
      · have hnone : (given slots).filter (fun field => field.1 == slot.1) = [] := by
          rw [List.filter_eq_nil_iff]
          intro field hfield heq
          exact hfirst (beq_iff_eq.mp heq ▸ mem_given hfield)
        rw [hnone, List.append_nil, List.filter_eq_self]
        intro field hfield
        obtain ⟨value, -, rfl⟩ := List.mem_map.mp hfield
        exact beq_self_eq_true slot.1
      · have hother : first.1 ≠ slot.1 := by
          intro heq
          exact hfirst (heq ▸ List.mem_map_of_mem hslot)
        have hnone : (first.2.toList.map (first.1, ·)).filter (fun field => field.1 == slot.1) =
            [] := by
          rw [List.filter_eq_nil_iff]
          intro field hfield heq
          obtain ⟨value, -, rfl⟩ := List.mem_map.mp hfield
          exact hother (beq_iff_eq.mp heq)
        rw [hnone, List.nil_append, ih hnodup hslot]

/-- The fields of these names are the ones that are given, each once, in any order. -/
def Gives (fields : List (String × Json)) (slots : List (String × Option Json)) : Prop :=
  (fields.filter fun field => (slots.map Prod.fst).contains field.1).Perm (given slots)

theorem gives_given (slots : List (String × Option Json)) : Gives (given slots) slots := by
  refine .of_eq (List.filter_eq_self.mpr ?_)
  intro field hfield
  exact List.contains_iff_mem.mpr (mem_given hfield)

theorem Gives.single? {fields : List (String × Json)} {slots : List (String × Option Json)}
    (h : Gives fields slots) (hnodup : (slots.map Prod.fst).Nodup)
    {slot : String × Option Json} (hslot : slot ∈ slots) :
    Body.single? fields slot.1 = some slot.2 := by
  have hknown : (slots.map Prod.fst).contains slot.1 = true :=
    List.contains_iff_mem.mpr (List.mem_map_of_mem hslot)
  have hfields : (fields.filter fun field => field.1 == slot.1).Perm
      (slot.2.toList.map (slot.1, ·)) := by
    rw [← filter_given hnodup hslot]
    refine .trans (.of_eq ?_) (List.Perm.filter (fun field => field.1 == slot.1) h)
    rw [List.filter_filter]
    apply List.filter_congr
    intro field _
    by_cases heq : field.1 = slot.1
    · rw [heq, hknown, Bool.and_true]
    · rw [beq_eq_false_iff_ne.mpr heq, Bool.false_and]
  rw [Body.single?]
  cases hvalue : slot.2 with
  | none =>
      rw [hvalue] at hfields
      rw [hfields.eq_nil]
  | some value =>
      rw [hvalue] at hfields
      rw [List.perm_singleton.mp hfields]

theorem Gives.arrange? {fields : List (String × Json)} {slots : List (String × Option Json)}
    (h : Gives fields slots) (hnodup : (slots.map Prod.fst).Nodup) :
    (Body.named fields).arrange? (slots.map Prod.fst) = some (slots.map Prod.snd) := by
  have hpart : ∀ part ⊆ slots,
      (part.map Prod.fst).mapM (Body.single? fields) = some (part.map Prod.snd) := by
    intro part hpart
    induction part with
    | nil => rfl
    | cons slot part ih =>
        obtain ⟨hslot, hmore⟩ := List.cons_subset.mp hpart
        rw [List.map_cons, List.mapM_cons, h.single? hnodup hslot, ih hmore]
        rfl
  exact hpart slots (List.Subset.refl slots)

theorem defaulted_map {α : Type} {default : α} {read? : Json → Option α} {write : α → Json}
    (h : ∀ a, read? (write a) = some a) (value : Option α) :
    defaulted default read? (value.map write) = some (value.getD default) := by
  cases value with
  | none => rfl
  | some a => exact h a

end Json

namespace Config

/-- What a file says of a configuration: each field is given or left out. A time limit may be given
as none. -/
structure Changes where
  baseUrl : Option String
  packages : Option (List String)
  initTimeoutMs : Option (Option UInt64)
  inputTimeoutMs : Option (Option UInt64)
  pollIntervalMs : Option UInt64
  runnableExtensions : Option (List String)

namespace Changes

/-- The known fields with what is given for them. -/
def slots (changes : Changes) : List (String × Option Json) :=
  [("base_url", changes.baseUrl.map .str),
    ("packages", changes.packages.map .ofTexts),
    ("init_timeout_ms", changes.initTimeoutMs.map (.ofOption Json.ofUInt64)),
    ("input_timeout_ms", changes.inputTimeoutMs.map (.ofOption Json.ofUInt64)),
    ("poll_interval_ms", changes.pollIntervalMs.map Json.ofUInt64),
    ("runnable_extensions", changes.runnableExtensions.map .ofTexts)]

/-- The default configuration with what is given in its place. -/
def config (changes : Changes) : Config where
  baseUrl := changes.baseUrl.getD default.baseUrl
  packages := changes.packages.getD default.packages
  initTimeoutMs := changes.initTimeoutMs.getD default.initTimeoutMs
  inputTimeoutMs := changes.inputTimeoutMs.getD default.inputTimeoutMs
  pollIntervalMs := changes.pollIntervalMs.getD default.pollIntervalMs
  runnableExtensions := changes.runnableExtensions.getD default.runnableExtensions

/-- Every field is given. -/
def ofConfig (config : Config) : Changes where
  baseUrl := some config.baseUrl
  packages := some config.packages
  initTimeoutMs := some config.initTimeoutMs
  inputTimeoutMs := some config.inputTimeoutMs
  pollIntervalMs := some config.pollIntervalMs
  runnableExtensions := some config.runnableExtensions

end Changes

/-- A text with these fields: a JSON object, where the value of a field that is not known may nest
deeper, and hold larger numbers, than what is read elsewhere. -/
inductive FileText (fields : List (String × Json)) : List Char → Prop where
  | mk {before text after : List Char} (hbefore : Json.Gap before)
      (h : Json.Writes (.fields rulesFor fields) text) (hafter : Json.Gap after) :
      FileText fields (before ++ '\x7b' :: (text ++ after))

variable {fields : List (String × Json)} {changes : Changes} {text : List Char}

theorem fileText_of_document (h : Json.Document (.object fields) text) : FileText fields text := by
  obtain ⟨hbefore, h, hafter⟩ := h
  cases h with
  | object henter h =>
      cases henter
      refine .mk hbefore (h.loosely rulesFor ?_) hafter
      intro name
      rw [rulesFor]
      split
      · refine ⟨?_, id⟩
        rintro _ ⟨⟩
        exact ⟨126, rfl, by decide⟩
      · exact ⟨by rintro _ ⟨⟩, by rintro ⟨⟩⟩

theorem FileText.readBody (h : FileText fields text) : readBody text = .ok (.named fields) := by
  obtain ⟨hbefore, h, hafter⟩ := h
  obtain ⟨left, hle, hskip, hdrop⟩ := Json.exists_skip _
  obtain rfl := hdrop.symm.trans (@Json.dropWhile_gap _ hbefore '\x7b' rfl _)
  obtain ⟨hrest, hread⟩ := Json.reads_iff.mp (h.isReadFrom .strict _)
  rw [Config.readBody, hskip]
  dsimp only
  rw [if_pos rfl, hread]
  exact Json.atEnd_gap hafter _

theorem ofBody_of_gives (h : Json.Gives fields changes.slots) :
    ofBody? (.named fields) = some changes.config := by
  have hnodup : Config.fields.Nodup := by decide
  have harrange : (Json.Body.named fields).arrange? Config.fields =
      some (changes.slots.map Prod.snd) := h.arrange? hnodup
  have htext (s : String) : Json.toText? (.str s) = some s := rfl
  rw [ofBody?, harrange]
  simp only [Changes.slots, List.map_cons, List.map_nil, Option.bind_eq_bind, Option.bind_some,
    Json.defaulted_map htext, Json.defaulted_map Json.toTexts_ofTexts,
    Json.defaulted_map Json.toOption_ofOption, Json.defaulted_map Json.toUInt64_ofUInt64]
  rfl

theorem ofFile_of_fileText (path : String) (h : FileText fields text)
    (hfields : Json.Gives fields changes.slots) :
    ofFile path (.ok (String.ofList text)) = .ok changes.config := by
  have hread : read text = .ok changes.config := by
    rw [read, h.readBody]
    dsimp only
    rw [ofBody_of_gives hfields]
  rw [ofFile, String.toList_ofList, hread]

/-! ### Written configurations -/

theorem write_eq (config : Config) :
    config.write = .object (Json.given (Changes.ofConfig config).slots) :=
  rfl

theorem plain_write (config : Config) : Json.Plain 127 config.write :=
  ⟨trivial, Json.plain_ofTexts config.packages 125, Json.plain_ofOption config.initTimeoutMs 126,
    Json.plain_ofOption config.inputTimeoutMs 126, Json.plain_ofUInt64 config.pollIntervalMs 126,
    Json.plain_ofTexts config.runnableExtensions 125, trivial⟩

/-- A configuration that is written to a file is loaded as it was. Of a file that gives only some
fields, in whatever order and among whatever other fields, each field is loaded as it is given, and
all others are as in the default configuration. -/
theorem file_names_changes (path : String) :
    (∀ config : Config, ofFile path (.ok config.write.text) = .ok config) ∧
    ∀ (changes : Changes) (fields : List (String × Json)) (text : List Char),
      Json.Gives fields changes.slots → FileText fields text →
      ofFile path (.ok (String.ofList text)) = .ok changes.config := by
  constructor
  · intro config
    have hdocument := Json.document_write config.plain_write
    rw [write_eq] at hdocument
    rw [Json.text, write_eq]
    exact ofFile_of_fileText path (fileText_of_document hdocument) (Json.gives_given _)
  · intro changes fields text hfields h
    exact ofFile_of_fileText path h hfields

/-- No time limit and one package, behind a field that is not known. -/
theorem file_names_changes_among_others :
    ofFile "session.json" (.ok
      "\x7b\"x\":[1],\"init_timeout_ms\":null,\"packages\":[\"json\"]\x7d") =
      .ok { default with packages := ["json"], initTimeoutMs := none } := by
  let fields : List (String × Json) :=
    [("x", .array [.ofNat 1]), ("init_timeout_ms", .null), ("packages", .ofTexts ["json"])]
  let changes : Changes := ⟨none, some ["json"], some none, none, none, none⟩
  have hplain : Json.Plain 127 (.object fields) :=
    ⟨⟨⟨1, by decide, rfl⟩, trivial⟩, trivial, Json.plain_ofTexts ["json"] 125, trivial⟩
  have hgives : Json.Gives fields changes.slots := .swap _ _ _
  exact (file_names_changes "session.json").2 changes fields _ hgives
    (fileText_of_document (Json.document_write hplain))

end Config
end ScriptConsole
