import ScriptConsole.Files.Tree

/-!
A file that was put in a place is what is read from there, and it changes nothing about the way
to any place that could be reached before.
-/

namespace ScriptConsole.Files

variable {files : Files} {place target : List Name} {entry : FileEntry}

theorem lookup_filter_ne (entries : List (List Name × FileEntry)) (hne : place ≠ target) :
    (entries.filter fun e => e.1 != target).lookup place = entries.lookup place := by
  induction entries with
  | nil => rfl
  | cons e entries ih =>
      by_cases htarget : e.1 = target
      · have hother : (place == e.1) = false := beq_eq_false_iff_ne.mpr (htarget ▸ hne)
        rw [List.filter_cons_of_neg (by simp [htarget]), ih, List.lookup_cons, hother]
      · rw [List.filter_cons_of_pos (by simp [htarget]), List.lookup_cons, List.lookup_cons, ih]

theorem get_set_ne (hne : place ≠ target) :
    (files.set target entry).get? place = files.get? place := by
  simp only [get?, set, List.lookup_cons, beq_eq_false_iff_ne.mpr hne, lookup_filter_ne _ hne]

theorem get_set_self (hroot : target ≠ []) : (files.set target entry).get? target = some entry := by
  simp only [get?, set, hroot, if_false, List.lookup_cons, beq_self_eq_true]

theorem ne_of_directory (htarget : files.get? target ≠ some .directory)
    (hplace : files.requireDirectory place = .ok ()) : place ≠ target := by
  rintro rfl
  simp only [requireDirectory] at hplace
  split at hplace
  · cases hplace
  · cases hplace
  · exact htarget ‹_›

theorem requireDirectory_set (htarget : files.get? target ≠ some .directory)
    (hplace : files.requireDirectory place = .ok ()) :
    (files.set target entry).requireDirectory place = .ok () := by
  simp only [requireDirectory, get_set_ne (ne_of_directory htarget hplace)] at hplace ⊢
  exact hplace

theorem walk_cons {here : List Name} {name : Name} {names : List Name} {stop : List Name}
    (hwalk : files.walk here (name :: names) = .ok stop) :
    files.requireDirectory here = .ok () ∧
      ((name = Path.here ∧ files.walk here names = .ok stop) ∨
        (name ≠ Path.here ∧ name = Path.above ∧ files.walk here.dropLast names = .ok stop) ∨
        (name ≠ Path.here ∧ name ≠ Path.above ∧ ¬ name.length > nameLimit ∧
          files.walk (here ++ [name]) names = .ok stop)) := by
  rw [walk] at hwalk
  cases hdirectory : files.requireDirectory here with
  | error cause => simp [hdirectory, bind, Except.bind] at hwalk
  | ok _ =>
      simp only [hdirectory, bind, Except.bind] at hwalk
      refine ⟨rfl, ?_⟩
      split at hwalk
      · exact .inl ⟨‹_›, hwalk⟩
      · split at hwalk
        · exact .inr (.inl ⟨‹_›, ‹_›, hwalk⟩)
        · split at hwalk
          · cases hwalk
          · exact .inr (.inr ⟨‹_›, ‹_›, ‹_›, hwalk⟩)

/-- Walks that go on alike from wherever a step leads are alike. -/
theorem walk_cons_of {files' : Files} {here : List Name} {name : Name} {names names' : List Name}
    {stop stop' : List Name}
    (hdirectory : files.requireDirectory here = .ok () → files'.requireDirectory here = .ok ())
    (hrest : ∀ next, files.walk next names = .ok stop → files'.walk next names' = .ok stop')
    (hwalk : files.walk here (name :: names) = .ok stop) :
    files'.walk here (name :: names') = .ok stop' := by
  obtain ⟨hhere, hstep⟩ := walk_cons hwalk
  rw [walk, hdirectory hhere]
  simp only [bind, Except.bind]
  rcases hstep with ⟨hself, hmore⟩ | ⟨hself, habove, hmore⟩ | ⟨hself, habove, hlimit, hmore⟩
  · rw [if_pos hself]
    exact hrest here hmore
  · rw [if_neg hself, if_pos habove]
    exact hrest here.dropLast hmore
  · rw [if_neg hself, if_neg habove, if_neg hlimit]
    exact hrest (here ++ [name]) hmore

theorem walk_set (htarget : files.get? target ≠ some .directory) {here : List Name}
    {names : List Name} {stop : List Name} (hwalk : files.walk here names = .ok stop) :
    (files.set target entry).walk here names = .ok stop := by
  induction names generalizing here with
  | nil => exact hwalk
  | cons name names ih =>
      exact walk_cons_of (requireDirectory_set htarget) (fun _ hrest => ih hrest) hwalk

theorem walk_append {here between stop : List Name} {first second : List Name}
    (hfirst : files.walk here first = .ok between)
    (hsecond : files.walk between second = .ok stop) :
    files.walk here (first ++ second) = .ok stop := by
  induction first generalizing here with
  | nil =>
      cases hfirst
      exact hsecond
  | cons name first ih => exact walk_cons_of id (fun _ hrest => ih hrest) hfirst

theorem origin_set (htarget : files.get? target ≠ some .directory) {path : Path}
    {start : List Name} (horigin : files.origin path = .ok start) :
    (files.set target entry).origin path = .ok start := by
  simp only [origin, bind, Except.bind, pure, Except.pure, throw, throwThe,
    MonadExceptOf.throw] at horigin ⊢
  split at horigin
  · cases horigin
  · rw [if_neg ‹_›]
    split at horigin
    · cases horigin
    · rw [if_neg ‹_›]
      split at horigin
      · cases horigin
      · rw [if_neg ‹_›]
        split at horigin
        · rw [if_pos ‹_›]
          exact horigin
        · rw [if_neg ‹_›]
          exact walk_set htarget horigin

theorem replace_ok {path : Path} {bytes : List UInt8} {files' : Files}
    (hreplace : files.replace path bytes = .ok files') :
    ∃ start place name, files.origin path = .ok start ∧
      files.walk start path.names.dropLast = .ok place ∧
      files.requireDirectory place = .ok () ∧ path.names.getLast? = some name ∧
      isStep name = false ∧ ¬ name.length > nameLimit ∧ path.endsInSlash = false ∧
      files.get? (place ++ [name]) ≠ some .directory ∧
      files' = files.set (place ++ [name]) (.file bytes) := by
  simp only [replace, parent, bind, Except.bind, pure, Except.pure, throw, throwThe,
    MonadExceptOf.throw] at hreplace
  cases horigin : files.origin path with
  | error cause => simp [horigin] at hreplace
  | ok start =>
      simp only [horigin] at hreplace
      cases hwalk : files.walk start path.names.dropLast with
      | error cause => simp [hwalk] at hreplace
      | ok place =>
          simp only [hwalk] at hreplace
          cases hdirectory : files.requireDirectory place with
          | error cause => simp [hdirectory] at hreplace
          | ok _ =>
              simp only [hdirectory] at hreplace
              cases hname : path.names.getLast? with
              | none => simp [hname] at hreplace
              | some name =>
                  simp only [hname] at hreplace
                  split at hreplace
                  · cases hreplace
                  · rename_i hstep
                    split at hreplace
                    · cases hreplace
                    · rename_i hlimit
                      split at hreplace
                      · cases hreplace
                      · rename_i hslash
                        split at hreplace
                        · cases hreplace
                        · rename_i hplace
                          cases hreplace
                          exact ⟨start, place, name, rfl, hwalk, hdirectory, rfl,
                            by simpa using hstep,
                            hlimit, by simpa using hslash, hplace, rfl⟩

theorem replace_again {path : Path} {bytes : List UInt8} {files' : Files}
    (hreplace : files.replace path bytes = .ok files') (other : List UInt8) :
    (∃ next, files.replace path other = .ok next) ∧
      ∃ next, files'.replace path other = .ok next := by
  obtain ⟨start, place, name, horigin, hwalk, hdirectory, hname, hstep, hlimit, hslash, htarget,
    rfl⟩ := replace_ok hreplace
  have hfile : (files.set (place ++ [name]) (.file bytes)).get? (place ++ [name]) =
      some (.file bytes) :=
    get_set_self (by simp)
  constructor
  · refine ⟨files.set (place ++ [name]) (.file other), ?_⟩
    simp only [replace, parent, horigin, hwalk, hdirectory, hname, hstep, hslash, bind, Except.bind,
      pure, Except.pure, if_neg hlimit, Bool.false_eq_true, if_false]
  · refine ⟨(files.set (place ++ [name]) (.file bytes)).set (place ++ [name]) (.file other), ?_⟩
    simp only [replace, parent, origin_set htarget horigin, walk_set htarget hwalk,
      requireDirectory_set htarget hdirectory, hname, hstep, hslash, bind, Except.bind, pure,
      Except.pure, if_neg hlimit, hfile, Bool.false_eq_true, if_false]

/-- What a plain write does to the files a move does as well. -/
theorem replace_of_write {path : Path} {bytes : List UInt8} {files' : Files}
    (hwrite : files.write path bytes = .ok files') : files.replace path bytes = .ok files' := by
  simp only [write, replace, bind, Except.bind, pure, Except.pure, throw, throwThe,
    MonadExceptOf.throw] at hwrite ⊢
  cases hparent : files.parent path with
  | error cause => simp [hparent] at hwrite
  | ok found =>
      obtain ⟨place, name?⟩ := found
      simp only [hparent] at hwrite ⊢
      cases name? with
      | none => cases hwrite
      | some name =>
          simp only at hwrite ⊢
          split at hwrite
          · cases hwrite
          · rename_i hstep
            rw [Bool.or_eq_true, not_or] at hstep
            split at hwrite
            · cases hwrite
            · rename_i hlimit
              rw [if_neg hstep.1, if_neg hlimit, if_neg hstep.2]
              exact hwrite

theorem readBytes_replace {path : Path} {bytes : List UInt8} {files' : Files}
    (hreplace : files.replace path bytes = .ok files') : files'.readBytes path = .ok bytes := by
  obtain ⟨start, place, name, horigin, hwalk, hdirectory, hname, hstep, hlimit, hslash, htarget,
    rfl⟩ := replace_ok hreplace
  have hnames : path.names = path.names.dropLast ++ [name] := by
    obtain ⟨names, hsplit⟩ := List.getLast?_eq_some_iff.mp hname
    rw [hsplit, List.dropLast_concat]
  have hlast : (files.set (place ++ [name]) (.file bytes)).walk place [name] =
      .ok (place ++ [name]) := by
    simp only [isStep, Bool.or_eq_false_iff, beq_eq_false_iff_ne] at hstep
    rw [walk, requireDirectory_set htarget hdirectory]
    simp only [bind, Except.bind, if_neg hstep.1, if_neg hstep.2, if_neg hlimit]
    rfl
  have hwhole : (files.set (place ++ [name]) (.file bytes)).walk start path.names =
      .ok (place ++ [name]) := by
    rw [hnames]
    exact walk_append (walk_set htarget hwalk) hlast
  simp only [readBytes, stat, find, origin_set htarget horigin, hwhole, bind, Except.bind, pure,
    Except.pure, get_set_self (show place ++ [name] ≠ [] by simp), hslash, Bool.false_eq_true,
    if_false]

theorem holds_of_readBytes {path : Path} {bytes : List UInt8}
    (hread : files.readBytes path = .ok bytes) : files.holds path = true := by
  simp only [readBytes, bind, Except.bind] at hread
  rw [holds]
  cases hstat : files.stat path with
  | error cause => simp [hstat] at hread
  | ok entry => rfl

end ScriptConsole.Files
