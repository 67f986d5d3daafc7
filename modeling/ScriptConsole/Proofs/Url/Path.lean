import ScriptConsole.Proofs.Files.Parts
import ScriptConsole.Proofs.Url.Percent
import ScriptConsole.Url

/-!
The URL of a path is read back as a path with the same parts, whatever bytes they are made of. What
ends like the name of a drive is read back as a directory.
-/

namespace ScriptConsole.Url

/-! ### The text of a URL -/

/-- The names that stand in the URL of a path. That of the root holds an empty name. -/
def shownNames (parts : List Name) : List Name :=
  if parts = [] then [[]] else parts

/-- The text behind the host. -/
def pathText (parts : List Name) : List Char :=
  ((shownNames parts).map segmentOf).flatMap ('/' :: ·)

theorem encodeParts_eq (parts : List Name) :
    encodeParts parts = (parts.map segmentOf).flatMap ('/' :: ·) := by
  induction parts with
  | nil => rfl
  | cons part parts ih =>
      rw [encodeParts, ih, List.map_cons, List.flatMap_cons, List.cons_append, segmentOf]

theorem pathText_eq (parts : List Name) :
    (if parts = [] then ['/'] else encodeParts parts) = pathText parts := by
  cases parts with
  | nil => rfl
  | cons part parts =>
      rw [if_neg (by simp), encodeParts_eq, pathText, shownNames, if_neg (by simp)]

theorem ofPath_eq (path : Path) :
    ofPath path = String.ofList ("file://".toList ++ pathText path.parts) := by
  rw [← pathText_eq]
  rfl

theorem exists_pathText (parts : List Name) : ∃ more, pathText parts = '/' :: more := by
  cases parts <;> exact ⟨_, rfl⟩

theorem mem_pathText {parts : List Name} {c : Char} (hc : c ∈ pathText parts) :
    c = '/' ∨ isTame c = true := by
  simp only [pathText, List.mem_flatMap, List.mem_map, List.mem_cons] at hc
  obtain ⟨_, ⟨name, -, rfl⟩, rfl | hmem⟩ := hc
  · exact .inl rfl
  · exact .inr (isTame_of_mem_segmentOf hmem)

/-! ### What a reader does not see in it -/

theorem trim_eq_self {s : List Char} (hs : ∀ c ∈ s, isControlOrSpace c = false) : trim s = s := by
  have hkeep {t : List Char} (ht : ∀ c ∈ t, isControlOrSpace c = false) :
      t.dropWhile isControlOrSpace = t :=
    Text.dropWhile_append_of_head (fun c hc => ht c (List.mem_of_mem_head? hc)) []
  rw [trim, hkeep hs, hkeep fun c hc => hs c (List.mem_reverse.mp hc), List.reverse_reverse]

theorem trim_ofPath (parts : List Name) :
    trim ("file://".toList ++ pathText parts) = "file://".toList ++ pathText parts := by
  apply trim_eq_self
  intro c hc
  rcases List.mem_append.mp hc with hscheme | htext
  · have hall : "file://".toList.all (fun c => !isControlOrSpace c) = true := by decide
    simpa using List.all_eq_true.mp hall c hscheme
  · rcases mem_pathText htext with rfl | htame
    · rfl
    · have := isTame_iff.mp htame
      simp only [isControlOrSpace, decide_eq_false_iff_not]
      omega

theorem splitHost_pathText (parts : List Name) :
    splitHost ("//".toList ++ pathText parts) = (.here, (pathText parts).splitOnP isSlash) := by
  have hbody : ("//".toList ++ pathText parts).takeWhile (fun c => c != '?' && c != '#') =
      "//".toList ++ pathText parts := by
    rw [List.takeWhile_eq_self_iff]
    intro c hc
    rcases List.mem_append.mp hc with hslash | htext
    · have hall : "//".toList.all (fun c => c != '?' && c != '#') = true := by decide
      exact List.all_eq_true.mp hall c hslash
    · rcases mem_pathText htext with rfl | htame
      · rfl
      · have := isTame_iff.mp htame
        simp [this]
  obtain ⟨more, hmore⟩ := exists_pathText parts
  rw [splitHost, hbody, hmore]
  rfl

theorem splitOnP_pathText (parts : List Name) :
    (pathText parts).splitOnP isSlash = [] :: (shownNames parts).map segmentOf := by
  apply Text.splitOnP_flatMap rfl
  intro segment hsegment c hc
  obtain ⟨name, -, rfl⟩ := List.mem_map.mp hsegment
  have := isTame_iff.mp (isTame_of_mem_segmentOf hc)
  simp [isSlash, this]

theorem withoutBreaks_segmentOf (name : Name) :
    withoutBreaks (segmentOf name) = segmentOf name := by
  rw [withoutBreaks, List.filter_eq_self]
  intro c hc
  have htame := isTame_iff.mp (isTame_of_mem_segmentOf hc)
  simp only [isBreak, Bool.not_eq_true', Bool.or_eq_false_iff, beq_eq_false_iff_ne]
  refine ⟨⟨?_, ?_⟩, ?_⟩ <;> rintro rfl <;> exact absurd htame.1 (by decide)

/-! ### Dots -/

theorem showPoints_cons {c : Char} (hc : c ≠ '%') (rest : List Char) :
    showPoints (c :: rest) = c :: showPoints rest := by
  rw [showPoints]
  rintro _ _ rfl
  exact absurd rfl hc

theorem hexUpper_ne_percent : ∀ n < 16, hexUpper n ≠ '%' := by
  decide

/-- The byte of a point needs no protection, so that no protected byte is that of a point. -/
theorem showPoints_encodeByte (b : UInt8) (rest : List Char) :
    showPoints (encodeByte b ++ rest) = encodeByte b ++ showPoints rest := by
  have hbyte := b.toNat_lt
  rw [encodeByte]
  split
  · next hplain =>
    rw [List.singleton_append, showPoints_cons, List.singleton_append]
    intro hc
    exact (isPlain_iff.mp hplain).2.2 (hc ▸ by decide)
  · next hplain =>
    have hfirst := hexUpper_ne_percent (b.toNat / 16) (by omega)
    have hsecond := hexUpper_ne_percent (b.toNat % 16) (by omega)
    simp only [List.cons_append, List.nil_append]
    by_cases htwo : hexUpper (b.toNat / 16) = '2'
    · have hpoint : ¬ (hexUpper (b.toNat % 16) = 'e' ∨ hexUpper (b.toNat % 16) = 'E') := by
        intro he
        have hhigh := (show ∀ n < 16, hexUpper n = '2' → n = 2 by decide) _ (by omega) htwo
        have hlow := (show ∀ n < 16, hexUpper n = 'e' ∨ hexUpper n = 'E' → n = 14 by decide) _
          (by omega) he
        obtain rfl : b = 46 := UInt8.toNat.inj (show b.toNat = 46 by omega)
        exact hplain (by decide)
      rw [htwo, showPoints, if_neg hpoint, showPoints_cons hsecond]
    · have hpercent : showPoints ('%' :: hexUpper (b.toNat / 16) :: hexUpper (b.toNat % 16) ::
          rest) = '%' :: showPoints (hexUpper (b.toNat / 16) :: hexUpper (b.toNat % 16) ::
          rest) := by
        rw [showPoints]
        rintro _ _ - hmore
        exact htwo (List.cons.inj hmore).1
      rw [hpercent, showPoints_cons hfirst, showPoints_cons hsecond]

theorem showPoints_segmentOf (name : Name) : showPoints (segmentOf name) = segmentOf name := by
  induction name with
  | nil => rfl
  | cons b name ih =>
      rw [segmentOf, List.flatMap_cons, showPoints_encodeByte]
      exact congrArg (encodeByte b ++ ·) ih

theorem isSingleDot_segmentOf {name : Name} (hname : name ≠ Path.here) :
    isSingleDot (segmentOf name) = false := by
  rw [isSingleDot, showPoints_segmentOf, beq_eq_false_iff_ne]
  exact fun h => hname (segmentOf_injective h)

theorem isDoubleDot_segmentOf {name : Name} (hname : name ≠ Path.above) :
    isDoubleDot (segmentOf name) = false := by
  rw [isDoubleDot, showPoints_segmentOf, beq_eq_false_iff_ne]
  exact fun h => hname (segmentOf_injective h)

/-! ### The way through the segments -/

theorem step_segmentOf {route : Route} {name : Name} (hroute : route.segments ≠ [])
    (hhere : name ≠ Path.here) (habove : name ≠ Path.above) :
    route.step (segmentOf name) =
      { route with segments := route.segments ++ [segmentOf name] } := by
  simp only [Route.step, withoutBreaks_segmentOf, isSingleDot_segmentOf hhere,
    isDoubleDot_segmentOf habove, hroute, false_and, if_false, Bool.false_eq_true]

theorem foldl_step_segmentOf {route : Route} {names : List Name} (hroute : route.segments ≠ [])
    (hnames : ∀ name ∈ names, name ≠ Path.here ∧ name ≠ Path.above) :
    (names.map segmentOf).foldl Route.step route =
      { route with segments := route.segments ++ names.map segmentOf } := by
  induction names generalizing route with
  | nil => simp
  | cons name names ih =>
      obtain ⟨⟨hhere, habove⟩, hmore⟩ := List.forall_mem_cons.mp hnames
      rw [List.map_cons, List.foldl_cons, step_segmentOf hroute hhere habove, ih (by simp) hmore]
      simp

theorem ofSegments_segmentOf {names : List Name}
    (hnames : ∀ name ∈ names, name ≠ Path.here ∧ name ≠ Path.above) :
    Route.ofSegments ([] :: names.map segmentOf) = ⟨[] :: names.map segmentOf, false⟩ := by
  have hfirst : Route.step ⟨[], false⟩ [] = ⟨[[]], false⟩ := rfl
  rw [Route.ofSegments, List.foldl_cons, hfirst, foldl_step_segmentOf (by simp) hnames]
  refine if_neg ?_
  rcases List.eq_nil_or_concat names with rfl | ⟨init, last, rfl⟩
  · decide
  · obtain ⟨hhere, habove⟩ := hnames last (by simp)
    rw [List.concat_eq_append, List.map_append, List.map_singleton, ← List.cons_append,
      List.getLast?_concat]
    simp [withoutBreaks_segmentOf, isSingleDot_segmentOf hhere, isDoubleDot_segmentOf habove]

/-! ### The path at the end -/

/-- The name ends in a letter and a colon or a bar, like that of a drive. -/
def endsLikeDrive (name : Name) : Bool :=
  match name.reverse with
  | mark :: letter :: _ => isDrive [Char.ofNat letter.toNat, Char.ofNat mark.toNat]
  | _ => false

/-- Parts that a reader takes for those of a directory. -/
def meansDirectory (parts : List Name) : Bool :=
  parts.getLast?.all endsLikeDrive

theorem isDrive_slash (c : Char) : isDrive [Char.ofNat Path.slash.toNat, c] = false := by
  have hslash : (Char.ofNat Path.slash.toNat).isAlpha = false := by decide
  rw [isDrive, hslash, Bool.false_and]

theorem isDrive_of_slash (c : Char) : isDrive [c, Char.ofNat Path.slash.toNat] = false :=
  Bool.and_false _

theorem close_eq (before : List UInt8) (last : Name) :
    (match (before ++ Path.slash :: last).reverse with
      | b :: a :: _ :: _ =>
          if isDrive [Char.ofNat a.toNat, Char.ofNat b.toNat] then
            before ++ Path.slash :: last ++ [Path.slash]
          else before ++ Path.slash :: last
      | _ => before ++ Path.slash :: last) =
      before ++ Path.slash :: last ++ if endsLikeDrive last then [Path.slash] else [] := by
  rw [endsLikeDrive, List.reverse_append, List.reverse_cons]
  rcases last.reverse with _ | ⟨mark, _ | ⟨letter, more⟩⟩
  · rcases before.reverse with _ | ⟨a, _ | ⟨c, more⟩⟩ <;> simp [isDrive_of_slash]
  · rcases before.reverse with _ | ⟨c, more⟩ <;> simp [isDrive_slash]
  · have hthird : more ++ [Path.slash] ++ before.reverse ≠ [] := by simp
    obtain ⟨c, others, hmore⟩ := List.exists_cons_of_ne_nil hthird
    simp only [List.cons_append, hmore]
    split <;> simp

theorem dropWhile_segmentOf {parts : List Name} (hparts : ∀ part ∈ parts, part ≠ []) :
    ([] :: (shownNames parts).map segmentOf).dropWhile (· == []) = parts.map segmentOf := by
  cases parts with
  | nil => rfl
  | cons part parts =>
      have hfull : segmentOf part ≠ [] := fun h =>
        hparts part List.mem_cons_self (segmentOf_injective h)
      rw [shownNames, if_neg (by simp), List.map_cons, List.dropWhile_cons_of_pos (by rfl),
        List.dropWhile_cons_of_neg (by simpa using hfull)]

theorem flatMap_segmentOf (names : List Name) :
    (names.map segmentOf).flatMap (fun segment => Path.slash :: segmentBytes segment) =
      names.flatMap (Path.slash :: ·) := by
  rw [List.flatMap_map]
  simp only [segmentBytes_segmentOf]

theorem joinSegments_segmentOf {parts : List Name} (hparts : ∀ part ∈ parts, part ≠ []) :
    joinSegments ([] :: (shownNames parts).map segmentOf) =
      (Path.ofParts parts (meansDirectory parts)).bytes := by
  rw [joinSegments, dropWhile_segmentOf hparts]
  rcases List.eq_nil_or_concat parts with rfl | ⟨init, last, rfl⟩
  · have hroot := flatMap_segmentOf [[]]
    simp only [List.map_nil]
    rw [show [[]] = [[]].map segmentOf from rfl, hroot]
    rfl
  · rw [List.concat_eq_append] at *
    have hkept : ∃ segment segments, (init ++ [last]).map segmentOf = segment :: segments :=
      List.exists_cons_of_ne_nil (by simp)
    obtain ⟨segment, segments, hsegments⟩ := hkept
    simp only [hsegments]
    rw [← hsegments, flatMap_segmentOf, List.flatMap_append, List.flatMap_singleton]
    refine (close_eq _ _).trans ?_
    rw [Path.ofParts, meansDirectory, List.getLast?_concat, Option.all_some]
    split <;> simp

/-- The URL of a path is read back as a path with the same parts. -/
theorem toPath_ofPath {path : Path} (habove : Path.above ∉ path.parts) :
    toPath (ofPath path) = .ok (Path.ofParts path.parts (meansDirectory path.parts)) := by
  have hparts (part) (hpart : part ∈ path.parts) : part ≠ [] := (Path.mem_parts hpart).2.1
  have hnames : ∀ name ∈ shownNames path.parts, name ≠ Path.here ∧ name ≠ Path.above := by
    intro name hname
    rw [shownNames] at hname
    split at hname
    · rw [List.mem_singleton.mp hname]
      decide
    · exact ⟨(Path.mem_parts hname).2.2, fun h => habove (h ▸ hname)⟩
  have hscheme : readScheme? ("file://".toList ++ pathText path.parts) =
      some ("file".toList, "//".toList ++ pathText path.parts) := by
    rfl
  rw [toPath, ofPath_eq, String.toList_ofList, trim_ofPath, hscheme]
  simp only [if_true, splitHost_pathText, splitOnP_pathText, ofSegments_segmentOf hnames, toLocal,
    joinSegments_segmentOf hparts, bind, Except.bind, pure, Except.pure]

end ScriptConsole.Url
