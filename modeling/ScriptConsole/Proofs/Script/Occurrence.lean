import ScriptConsole.Proofs.Script.Display
import ScriptConsole.Proofs.Script.Modules

/-!
Which values occur. An exception is always called by a name that an exception can have, since a
call by such a name is the only way to make one; texts that are loaded and run keep it so for what
names stand for. So every value that a script comes to, negative integers apart, is displayed in a
form that reads back.
-/

namespace ScriptConsole

namespace Dialogue

variable {α : Type} {P : α → Prop} {dialogue : Dialogue α} {result : α}

/-- With some answers of the host, the dialogue ends so. -/
def MayEnd (dialogue : Dialogue α) (result : α) : Prop :=
  ¬ dialogue.Ends (· ≠ result)

theorem mayEnd_done (result : α) : (done result).MayEnd result :=
  fun h => h rfl

theorem MayEnd.of_ends (hmay : dialogue.MayEnd result) (h : dialogue.Ends P) : P result := by
  by_contra hnot
  apply hmay
  apply h.imp
  rintro other hother rfl
  exact hnot hother

end Dialogue

namespace Script

/-! ### Names -/

namespace Token

/-- If it is a name, it is written as one. -/
def WellNamed : Token → Prop
  | name text => IsName text
  | _ => True

/-- The token that is read is well named. -/
def Names {s : List Char} (lexed : Except Fault (Lexed s)) : Prop :=
  ∀ token more, seen lexed = .ok (token, more) → token.WellNamed

section Names

variable {s : List Char} {token : Token} {rest : {rest : List Char // rest.length ≤ s.length}}

theorem names_error (fault : Fault) : Names (s := s) (.error fault) := by
  rintro _ _ ⟨⟩

theorem names_ok (h : token.WellNamed) : Names (.ok (token, rest)) := by
  rintro _ _ ⟨⟩
  exact h

theorem names_ite {p : Prop} [Decidable p] {first second : Except Fault (Lexed s)}
    (hfirst : p → Names first) (hsecond : ¬ p → Names second) :
    Names (if p then first else second) :=
  iteInduction hfirst hsecond

theorem names_readSign {second : Char} {both : Token} {alone : Except Fault Token}
    {rest : List Char} (hboth : both.WellNamed)
    (halone : ∀ token, alone = .ok token → token.WellNamed) :
    Names (readSign second both alone rest) := by
  have hmap (behind : {more : List Char // more.length ≤ rest.length}) :
      Names (alone.map fun token => (token, behind)) := by
    cases alone with
    | error fault => exact names_error fault
    | ok token => exact names_ok (halone token rfl)
  cases rest with
  | nil => exact hmap _
  | cons c rest => exact names_ite (fun _ => names_ok hboth) fun _ => hmap _

/-- Signs, strings and numerals are no names, and a word that is read is one. -/
theorem names_readFrom (c : Char) (rest : List Char) : Names (readFrom c rest) := by
  rw [readFrom]
  refine names_ite (fun _ => names_readSign trivial ?_) fun _ => ?_
  · rintro _ ⟨⟩
    trivial
  refine names_ite (fun _ => names_readSign trivial ?_) fun _ => ?_
  · rintro _ ⟨⟩
  iterate 4 refine names_ite (fun _ => names_ok trivial) fun _ => ?_
  refine names_ite (fun _ => ?_) fun _ => ?_
  · split
    · exact names_error _
    · exact names_ok trivial
  refine names_ite (fun _ => ?_) fun _ => ?_
  · split
    · exact names_error _
    · exact names_ok trivial
  refine names_ite (fun hstarts => names_ok ?_) fun _ => names_error _
  exact ⟨c, rest.takeWhile continuesName, String.toList_ofList, hstarts, List.all_takeWhile⟩

end Names

theorem wellNamed_of_tokenize {s : List Char} {ts : List Token} (h : tokenize s = .ok ts) :
    ∀ token ∈ ts, token.WellNamed := by
  fun_induction tokenize s generalizing ts with
  | case1 =>
      cases h
      exact List.forall_mem_nil _
  | case2 c rest hgap ih => exact ih h
  | case3 rest =>
      cases h
      exact List.forall_mem_nil _
  | case4 => cases h
  | case5 c rest hgap hcomment token after hshorter hfirst ih =>
      obtain ⟨others, hothers, rfl⟩ := exists_of_map_eq_ok h
      have hseen : seen (readFrom c rest) = .ok (token, after) := by
        rw [hfirst]
        rfl
      exact List.forall_mem_cons.mpr ⟨names_readFrom c rest _ _ hseen, ih hothers⟩

end Token

/-! ### Expressions -/

/-- What the names stand for is well named. -/
def Scope.WellNamed (scope : Scope) : Prop :=
  ∀ entry ∈ scope.globals, entry.2.WellNamed

theorem Scope.WellNamed.get {scope : Scope} (h : scope.WellNamed) {name : String} {value : Value}
    (hget : scope.get? name = some value) : value.WellNamed := by
  obtain ⟨before, after, hglobals, -⟩ := List.lookup_eq_some_iff.mp hget
  apply h (name, value)
  rw [hglobals]
  exact List.mem_append_cons_self

namespace Expression

open Grammar Value

variable {scope : Scope}

theorem gives_pass {α : Type} {result : Except Fault α} {P : α → Prop}
    (h : ∀ a, result = .ok a → P a) : Gives (pass result) P :=
  h

theorem lookup_wellNamed (hscope : scope.WellNamed) {name : String} {value : Value}
    (h : lookup scope name = .ok value) : value.WellNamed := by
  rw [lookup] at h
  split at h
  · cases h
    trivial
  · split at h
    · cases h
      trivial
    · split at h
      · cases h
        trivial
      · split at h
        · next hget =>
          cases h
          exact hscope.get hget
        · cases h

theorem add_wellNamed {left right value : Value} (h : add left right = .ok value) :
    value.WellNamed := by
  rw [add.eq_def] at h
  split at h
  · split at h
    · cases h
      trivial
    · cases h
  · cases h
    trivial
  · cases h

theorem lengthOf_wellNamed {value length : Value} (h : lengthOf value = .ok length) :
    length.WellNamed := by
  cases value with
  | str text =>
      cases h
      trivial
  | _ => cases h

theorem toInteger_wellNamed {value number : Value} (h : toInteger value = .ok number) :
    number.WellNamed := by
  cases value with
  | int n =>
      cases h
      trivial
  | bool b =>
      cases h
      trivial
  | str text =>
      rw [toInteger] at h
      split at h
      · cases h
        trivial
      · cases h
  | _ => cases h

theorem bind_eq_ok {α β : Type} {first : Except Fault α} {next : α → Except Fault β} {b : β}
    (h : first >>= next = .ok b) : ∃ a, first = .ok a ∧ next a = .ok b := by
  cases first with
  | error fault => cases h
  | ok a => exact ⟨a, rfl, h⟩

/-- Of all calls, only those by the name of an exception give one. -/
theorem call_gives {name : String} (hname : Token.IsName name) (values : List Value) :
    Gives (call scope name values) WellNamed := by
  have hlength (length : Value) (h : single "len" values >>= lengthOf = .ok length) :
      length.WellNamed := by
    obtain ⟨value, -, hvalue⟩ := bind_eq_ok h
    exact lengthOf_wellNamed hvalue
  have hnumber (number : Value) (h : single "int" values >>= toInteger = .ok number) :
      number.WellNamed := by
    obtain ⟨value, -, hvalue⟩ := bind_eq_ok h
    exact toInteger_wellNamed hvalue
  rw [call]
  refine gives_ite (fun _ => gives_bind fun _ => gives_pure trivial) fun _ => ?_
  refine gives_ite (fun _ => gives_bind fun _ => gives_bind fun _ => gives_pure trivial) fun _ => ?_
  refine gives_ite (fun _ => gives_bind fun _ => gives_pure trivial) fun _ => ?_
  refine gives_ite (fun _ => gives_bind fun _ => gives_pure trivial) fun _ => ?_
  refine gives_ite (fun _ => gives_pass hlength) fun _ => ?_
  refine gives_ite (fun _ => gives_pass hnumber) fun _ => ?_
  refine gives_ite (fun _ => gives_bind fun _ => gives_bind fun _ => gives_pure trivial) fun _ => ?_
  refine gives_ite (fun _ => gives_bind fun _ => gives_bind fun _ => gives_pure trivial) fun _ => ?_
  refine gives_ite (fun hexception => gives_bind fun _ => gives_pure ⟨hname, hexception⟩) fun _ => ?_
  exact gives_bind fun _ => gives_throw

mutual

theorem comparison_wellNamed (tree : Comparison) (hscope : scope.WellNamed)
    (hnames : ∀ token ∈ tree.tokens, token.WellNamed) :
    Gives (tree.eval scope) WellNamed := by
  cases tree with
  | sum sum => exact sum_wellNamed sum hscope hnames
  | equal left right =>
      exact gives_bind fun _ => gives_bind fun _ => gives_pure trivial
  | notEqual left right =>
      exact gives_bind fun _ => gives_bind fun _ => gives_pure trivial

theorem sum_wellNamed (tree : Sum) (hscope : scope.WellNamed)
    (hnames : ∀ token ∈ tree.tokens, token.WellNamed) :
    Gives (tree.eval scope) WellNamed := by
  obtain ⟨first, more⟩ := tree
  have hfirst := term_wellNamed first hscope fun token hmem =>
    hnames token (List.mem_append_left _ hmem)
  exact hfirst.bind fun value hvalue => addends_wellNamed more hvalue

theorem addends_wellNamed (tree : Addends) {value : Value} (hvalue : value.WellNamed) :
    Gives (tree.eval scope value) WellNamed := by
  cases tree with
  | none => exact gives_pure hvalue
  | plus term more =>
      refine gives_bind fun right => ?_
      exact (gives_pass fun _ => add_wellNamed).bind fun value hvalue =>
        addends_wellNamed more hvalue

theorem term_wellNamed (tree : Term) (hscope : scope.WellNamed)
    (hnames : ∀ token ∈ tree.tokens, token.WellNamed) :
    Gives (tree.eval scope) WellNamed := by
  cases tree with
  | int n => exact gives_pure trivial
  | str text => exact gives_pure trivial
  | group inner =>
      exact comparison_wellNamed inner hscope fun token hmem =>
        hnames token (List.mem_cons_of_mem _ (List.mem_append_left _ hmem))
  | name name => exact gives_pass fun _ => lookup_wellNamed hscope
  | call name arguments =>
      exact gives_bind fun values => call_gives (hnames (.name name) List.mem_cons_self) values

end

theorem evaluate_wellNamed (hscope : scope.WellNamed) {ts : List Token}
    (hnames : ∀ token ∈ ts, token.WellNamed) :
    Gives (evaluate scope ts) WellNamed := by
  by_cases htree : ∃ tree : Comparison, ts = tree.tokens
  · obtain ⟨tree, rfl⟩ := htree
    rw [evaluate_tokens]
    exact comparison_wellNamed tree hscope hnames
  · exact (evaluate_gives ts).imp fun _ h => absurd h htree

theorem tokenize_gives (text : List Char) : Gives (pass (Token.tokenize text)) fun ts =>
    ∀ token ∈ ts, token.WellNamed :=
  gives_pass fun _ => Token.wellNamed_of_tokenize

theorem ofText_gives (hscope : scope.WellNamed) (text : List Char) :
    Gives (ofText scope text) WellNamed :=
  (tokenize_gives text).bind fun _ hts => evaluate_wellNamed hscope hts

end Expression

/-! ### Texts that are loaded and run -/

/-- From a scope that is well named, the script comes to such a scope again, and what it gives is
of this kind, whatever the host answers. -/
def Keeps {α : Type} (script : Running α) (P : α → Prop) : Prop :=
  ∀ scope : Scope, scope.WellNamed → (script.run scope).Ends fun ended =>
    ended.2.WellNamed ∧ ∀ a, ended.1 = .ok a → P a

section Keeps

variable {α β : Type} {P : α → Prop} {Q : β → Prop} {script : Running α}

theorem keeps_pure {a : α} (h : P a) : Keeps (pure a) P := by
  intro scope hscope
  refine ⟨hscope, ?_⟩
  rintro _ ⟨⟩
  exact h

theorem keeps_throw (fault : Fault) : Keeps (throw fault) P := by
  intro scope hscope
  refine ⟨hscope, ?_⟩
  rintro _ ⟨⟩

theorem keeps_observe {action : Scope → Action α}
    (h : ∀ scope : Scope, scope.WellNamed → Gives (action scope) P) : Keeps (observe action) P := by
  intro scope hscope
  exact Dialogue.Ends.bind (h scope hscope) fun result hresult => ⟨hscope, hresult⟩

theorem Keeps.bind (h : Keeps script P) {f : α → Running β} (hnext : ∀ a, P a → Keeps (f a) Q) :
    Keeps (script >>= f) Q := by
  intro scope hscope
  rw [run_bind]
  refine (h scope hscope).bind fun ended hended => ?_
  obtain ⟨outcome, scope'⟩ := ended
  obtain ⟨hscope', hgives⟩ := hended
  cases outcome with
  | ok a => exact hnext a (hgives a rfl) scope' hscope'
  | error fault =>
      refine ⟨hscope', ?_⟩
      rintro _ ⟨⟩

end Keeps

theorem Scope.WellNamed.load {scope : Scope} (h : scope.WellNamed) (module : String) :
    (scope.load module).WellNamed := by
  rw [Scope.load]
  split <;> exact h

theorem Scope.WellNamed.set {scope : Scope} (h : scope.WellNamed) (name : String) {value : Value}
    (hvalue : value.WellNamed) : (scope.set name value).WellNamed := by
  intro entry hentry
  rcases List.mem_cons.mp hentry with rfl | hkept
  · exact hvalue
  · exact h entry (List.mem_filter.mp hkept).1

theorem keeps_importModules (modules : List String) : Keeps (importModules modules) fun _ => True := by
  induction modules with
  | nil => exact keeps_pure trivial
  | cons module modules ih =>
      intro scope hscope
      rw [importModules_cons]
      split
      · exact ih _ (hscope.load module)
      · exact keeps_throw (.missingModule module) scope hscope

theorem keeps_loadModules (modules : List String) : Keeps (loadModules modules) fun _ => True := by
  induction modules with
  | nil => exact keeps_pure trivial
  | cons module modules ih =>
      rw [loadModules_cons]
      refine Keeps.bind (P := fun _ => True) ?_ fun _ _ => ih
      intro scope hscope
      rw [loadModules_singleton]
      split
      · intro answer
        cases answer with
        | ok _ => exact ⟨hscope.load module, fun _ _ => trivial⟩
        | error cause => exact keeps_throw (.host cause) scope hscope
      · exact ⟨hscope, fun _ _ => trivial⟩

theorem keeps_evaluate {ts : List Token}
    (hnames : ∀ token ∈ ts, token.WellNamed) :
    Keeps (observe fun scope => Expression.evaluate scope ts) Value.WellNamed :=
  keeps_observe fun _ hscope => Expression.evaluate_wellNamed hscope hnames

theorem keeps_execute (text : List Char) : Keeps (execute text) fun _ => True := by
  rw [execute]
  split
  · exact keeps_pure trivial
  · split
    · exact (keeps_importModules _).bind fun _ _ => keeps_pure trivial
    · apply (keeps_observe fun _ _ => Expression.tokenize_gives text).bind
      intro tokens htokens
      split
      · next rest =>
        apply (keeps_evaluate (List.forall_mem_cons.mp htokens).2).bind
        intro value _
        split
        · exact keeps_throw _
        · exact keeps_throw _
      · next name rest _ =>
        obtain ⟨-, hbehind⟩ := List.forall_mem_cons.mp htokens
        apply (keeps_evaluate (List.forall_mem_cons.mp hbehind).2).bind
        intro value hvalue scope hscope
        exact ⟨hscope.set name hvalue, fun _ _ => trivial⟩
      · apply (keeps_evaluate htokens).bind
        intro value _
        split
        · exact keeps_pure trivial
        · exact keeps_pure trivial

theorem keeps_executeAll (last : Option Value) (texts : List (List Char)) :
    Keeps (executeAll last texts) fun _ => True := by
  induction texts generalizing last with
  | nil => exact keeps_pure trivial
  | cons text texts ih => exact (keeps_execute text).bind fun value _ => ih value

theorem Item.keeps_runAll (last : Option Value) (items : List Item) :
    Keeps (runAll last items) fun _ => True := by
  induction items generalizing last with
  | nil => exact keeps_pure trivial
  | cons item items ih =>
      refine Keeps.bind (P := fun _ => True) ?_ fun value _ => ih value
      cases item with
      | simple text => exact keeps_execute text
      | branch condition body orelse =>
          apply (keeps_observe fun _ hscope => Expression.ofText_gives hscope condition).bind
          exact fun value _ => keeps_executeAll none _
      | malformed fault => exact keeps_throw fault

theorem Keeps.perform {α : Type} {P : α → Prop} {script : Running α} (h : Keeps script P)
    {scope : Scope} (hscope : scope.WellNamed) :
    (perform script scope).Ends fun ended => ended.2.WellNamed := by
  refine (h scope hscope).bind fun ended hended => ?_
  obtain ⟨outcome, scope'⟩ := ended
  cases outcome with
  | ok a => exact hended.1
  | error fault => exact hended.1

/-! ### Values that occur -/

/-- The scopes of an interpreter, whatever is loaded and run on it and whatever its host answers. -/
inductive Comes (available : List String) : Scope → Prop where
  | boot {config : BootConfig} {scope : Scope}
      (hboot : (interpreter available).boot config = .ready scope) : Comes available scope
  | load {scope scope' : Scope} {ending : Ending Unit} (h : Comes available scope) (code : String)
      (hload : ((interpreter available).load code scope).MayEnd (ending, scope')) :
      Comes available scope'
  | run {scope scope' : Scope} {ending : Ending (Option String)} (h : Comes available scope)
      (code : String) (hrun : ((interpreter available).run code scope).MayEnd (ending, scope')) :
      Comes available scope'

theorem preload_wellNamed {packages : List String} {scope scope' : Scope}
    (hscope : scope.WellNamed) (h : preload scope packages = .ok scope') : scope'.WellNamed := by
  induction packages generalizing scope with
  | nil =>
      cases h
      exact hscope
  | cons package packages ih =>
      rw [preload] at h
      split at h
      · exact ih (hscope.load package) h
      · cases h

theorem Comes.wellNamed {available : List String} {scope : Scope} (h : Comes available scope) :
    scope.WellNamed := by
  induction h with
  | boot hboot =>
      simp only [interpreter, Script.boot] at hboot
      split at hboot
      · next scope' hpreload =>
        cases hboot
        exact preload_wellNamed (by rintro _ ⟨⟩) hpreload
      · cases hboot
  | load _ code hload ih => exact hload.of_ends ((keeps_loadModules _).perform ih)
  | run _ code hrun ih =>
      have hkeeps := (Item.keeps_runAll none (Item.ofLines (SourceLine.ofText code))).bind
        (Q := fun _ => True) (f := fun value => pure (value.map Value.display))
        fun _ _ => keeps_pure trivial
      exact hrun.of_ends (hkeeps.perform ih)

/-- Some expression has the value, in some interpreter and with some answers of the host. -/
def Value.Occurs (value : Value) : Prop :=
  ∃ available scope text, Comes available scope ∧
    (Expression.ofText scope text).run.MayEnd (.ok value)

/-- The displayed form of a value reads back. A value that is no negative integer occurs just if
it is no exception, or one that is called by a name that an exception can have; and then its
displayed form is an expression whose value is the value again, whatever names a script has given
a meaning to, and nothing is asked of the host. -/
theorem displayed_form_reads_back {value : Value} (hsign : ¬ value.IsNegative) :
    (value.Occurs ↔ value.WellNamed) ∧
      (value.WellNamed → ∀ scope,
        Expression.ofText scope value.display.toList = return value) := by
  have hreads (hnamed : value.WellNamed) (scope : Scope) :=
    Expression.ofText_display hnamed hsign scope
  refine ⟨⟨?_, fun hnamed => ?_⟩, hreads⟩
  · rintro ⟨available, scope, text, hcomes, hvalue⟩
    exact hvalue.of_ends (Expression.ofText_gives hcomes.wellNamed text) value rfl
  · have hempty : (interpreter []).boot ⟨"", []⟩ = .ready ⟨[], [], []⟩ := rfl
    have hboot : Comes [] ⟨[], [], []⟩ := .boot hempty
    refine ⟨[], _, value.display.toList, hboot, ?_⟩
    rw [hreads hnamed]
    exact Dialogue.mayEnd_done _

/-- A message with a quote and backslashes, and a name that stands for something else. -/
theorem displayed_form_reads_back_of_exception :
    ¬ (Value.exception "app.Error" "it's \\n\\").IsNegative ∧
    (Value.exception "app.Error" "it's \\n\\").WellNamed ∧
    Expression.ofText ⟨[("app.Error", .nothing)], [], []⟩
        "app.Error('it\\'s \\\\n\\\\')".toList =
      return .exception "app.Error" "it's \\n\\" := by
  have hsign : ¬ (Value.exception "app.Error" "it's \\n\\").IsNegative := id
  have hnamed : (Value.exception "app.Error" "it's \\n\\").WellNamed :=
    ⟨⟨'a', "pp.Error".toList, by decide, by decide, by decide +kernel⟩, by decide +kernel⟩
  have hdisplay : (Value.exception "app.Error" "it's \\n\\").display =
      "app.Error('it\\'s \\\\n\\\\')" := by decide +kernel
  refine ⟨hsign, hnamed, ?_⟩
  rw [← hdisplay]
  exact (displayed_form_reads_back hsign).2 hnamed ⟨[("app.Error", .nothing)], [], []⟩

end Script
end ScriptConsole
