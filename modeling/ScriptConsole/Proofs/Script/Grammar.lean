import Mathlib.Logic.Basic
import ScriptConsole.Proofs.Script.Endings

/-!
The grammar of expressions, and what the trees of the grammar mean. Evaluation in one pass over
the tokens does what the tree of the tokens says, and finds a value only if there is a tree.
-/

namespace ScriptConsole.Script

/-- Whatever a host answers, what the action gives is of this kind, if it does not fail. -/
def Gives {α : Type} (action : Action α) (P : α → Prop) : Prop :=
  action.run.Ends fun result => ∀ a, result = .ok a → P a

section Gives

variable {α β : Type} {P : α → Prop} {Q : β → Prop}

theorem gives_pure {a : α} (h : P a) : Gives (pure a) P := by
  rintro _ ⟨⟩
  exact h

theorem gives_throw {fault : Fault} : Gives (throw fault) P := by
  rintro _ ⟨⟩

theorem gives_of_forall {action : Action α} (h : ∀ a, P a) : Gives action P :=
  Dialogue.ends_of_forall (fun _ a _ => h a) action.run

theorem Gives.imp {action : Action α} (h : Gives action P) {P' : α → Prop}
    (himp : ∀ a, P a → P' a) : Gives action P' :=
  Dialogue.Ends.imp h fun _ hgives a ha => himp a (hgives a ha)

theorem Gives.bind {action : Action α} (h : Gives action P) {f : α → Action β}
    (hnext : ∀ a, P a → Gives (f a) Q) : Gives (action >>= f) Q := by
  refine Dialogue.Ends.bind h fun result hgives => ?_
  cases result with
  | ok a => exact hnext a (hgives a rfl)
  | error fault => rintro _ ⟨⟩

theorem gives_bind {action : Action α} {f : α → Action β} (h : ∀ a, Gives (f a) Q) :
    Gives (action >>= f) Q :=
  (gives_of_forall (P := fun _ => True) fun _ => trivial).bind fun a _ => h a

theorem gives_ite {p : Prop} [Decidable p] {first second : Action α}
    (hfirst : p → Gives first P) (hsecond : ¬ p → Gives second P) :
    Gives (if p then first else second) P :=
  iteInduction hfirst hsecond

end Gives

namespace Grammar

mutual

inductive Comparison where
  | sum (sum : Sum)
  | equal (left right : Sum)
  | notEqual (left right : Sum)

inductive Sum where
  | terms (first : Term) (more : Addends)

/-- Terms with a plus sign before each. -/
inductive Addends where
  | none
  | plus (term : Term) (more : Addends)

inductive Term where
  | int (n : Int64)
  | str (text : String)
  | group (inner : Comparison)
  | name (name : String)
  | call (name : String) (arguments : CallArguments)

inductive CallArguments where
  | none
  | some (list : ArgumentList)

/-- At least one argument. -/
inductive ArgumentList where
  | last (argument : Comparison)
  | next (argument : Comparison) (more : ArgumentList)

end

/-! ### Tokens -/

mutual

def Comparison.tokens : Comparison → List Token
  | .sum sum => sum.tokens
  | .equal left right => left.tokens ++ .equal :: right.tokens
  | .notEqual left right => left.tokens ++ .notEqual :: right.tokens

def Sum.tokens : Sum → List Token
  | .terms first more => first.tokens ++ more.tokens

def Addends.tokens : Addends → List Token
  | .none => []
  | .plus term more => .plus :: (term.tokens ++ more.tokens)

def Term.tokens : Term → List Token
  | .int n => [.int n]
  | .str text => [.str text]
  | .group inner => .leftParen :: (inner.tokens ++ [.rightParen])
  | .name name => [.name name]
  | .call name arguments => .name name :: .leftParen :: (arguments.tokens ++ [.rightParen])

def CallArguments.tokens : CallArguments → List Token
  | .none => []
  | .some list => list.tokens

def ArgumentList.tokens : ArgumentList → List Token
  | .last argument => argument.tokens
  | .next argument more => argument.tokens ++ .comma :: more.tokens

end

/-! ### Meaning

From left to right, and the arguments before the call. -/

mutual

def Comparison.eval (scope : Scope) : Comparison → Action Value
  | .sum sum => sum.eval scope
  | .equal left right => do
      let left ← left.eval scope
      let right ← right.eval scope
      return .bool (left == right)
  | .notEqual left right => do
      let left ← left.eval scope
      let right ← right.eval scope
      return .bool (left != right)

def Sum.eval (scope : Scope) : Sum → Action Value
  | .terms first more => do
      let value ← first.eval scope
      more.eval scope value

/-- The sum of a value and the terms. -/
def Addends.eval (scope : Scope) (value : Value) : Addends → Action Value
  | .none => return value
  | .plus term more => do
      let right ← term.eval scope
      let value ← Expression.pass (Expression.add value right)
      more.eval scope value

def Term.eval (scope : Scope) : Term → Action Value
  | .int n => return .int n
  | .str text => return .str text
  | .group inner => inner.eval scope
  | .name name => Expression.pass (Expression.lookup scope name)
  | .call name arguments => do
      let values ← arguments.eval scope
      Expression.call scope name values

def CallArguments.eval (scope : Scope) : CallArguments → Action (List Value)
  | .none => return []
  | .some list => list.eval scope

def ArgumentList.eval (scope : Scope) : ArgumentList → Action (List Value)
  | .last argument => do
      let value ← argument.eval scope
      return [value]
  | .next argument more => do
      let value ← argument.eval scope
      let values ← more.eval scope
      return value :: values

end

/-! ### The tokens around a tree -/

/-- A term that is followed by these tokens ends before them. -/
def EndsTerm (rest : List Token) : Prop :=
  rest.head? ≠ some .leftParen

structure EndsSum (rest : List Token) : Prop where
  term : EndsTerm rest
  plus : rest.head? ≠ some .plus

structure EndsComparison (rest : List Token) : Prop where
  sum : EndsSum rest
  equal : rest.head? ≠ some .equal
  notEqual : rest.head? ≠ some .notEqual

theorem endsSum_cons {token : Token} (hparen : token ≠ .leftParen) (hplus : token ≠ .plus)
    (rest : List Token) : EndsSum (token :: rest) :=
  ⟨fun h => hparen (Option.some.inj h), fun h => hplus (Option.some.inj h)⟩

theorem endsComparison_nil : EndsComparison [] := by
  refine ⟨⟨?_, ?_⟩, ?_, ?_⟩ <;> rintro ⟨⟩

theorem endsComparison_rightParen (rest : List Token) : EndsComparison (.rightParen :: rest) := by
  refine ⟨⟨?_, ?_⟩, ?_, ?_⟩ <;> rintro ⟨⟩

theorem endsComparison_comma (rest : List Token) : EndsComparison (.comma :: rest) := by
  refine ⟨⟨?_, ?_⟩, ?_, ?_⟩ <;> rintro ⟨⟩

theorem Addends.endsTerm (more : Addends) {rest : List Token} (h : EndsTerm rest) :
    EndsTerm (more.tokens ++ rest) := by
  cases more with
  | none => exact h
  | plus term more => rintro ⟨⟩

/-- What is read begins with a token that closes nothing. -/
def Opens (ts : List Token) : Prop :=
  ∃ token more, ts = token :: more ∧ token ≠ .rightParen

theorem Opens.append {ts : List Token} (h : Opens ts) (rest : List Token) : Opens (ts ++ rest) := by
  obtain ⟨token, more, rfl, hopens⟩ := h
  exact ⟨token, more ++ rest, rfl, hopens⟩

theorem Opens.shorter {ts read rest : List Token} (h : Opens read) (hsplit : ts = read ++ rest) :
    rest.length < ts.length := by
  obtain ⟨token, more, rfl, -⟩ := h
  rw [hsplit, List.cons_append, List.length_cons, List.length_append]
  omega

theorem Term.opens (term : Term) : Opens term.tokens := by
  cases term <;> exact ⟨_, _, rfl, by rintro ⟨⟩⟩

theorem Sum.opens (sum : Sum) : Opens sum.tokens := by
  obtain ⟨first, more⟩ := sum
  exact first.opens.append more.tokens

theorem Comparison.opens (comparison : Comparison) : Opens comparison.tokens := by
  cases comparison with
  | sum sum => exact sum.opens
  | equal left right => exact left.opens.append _
  | notEqual left right => exact left.opens.append _

theorem ArgumentList.opens (list : ArgumentList) : Opens list.tokens := by
  cases list with
  | last argument => exact argument.opens
  | next argument more => exact argument.opens.append _

end Grammar

namespace Expression

open Grammar

variable {scope : Scope}

/-! ### Reading without bounds

The tokens that are left are shorter than those that were read; what evaluation does does not
depend on that. -/

/-- A value and the tokens that are left. -/
def Reading {α : Type} {P : List Token → Prop}
    (action : Action (α × {rest : List Token // P rest})) :
    Action (α × List Token) :=
  (fun read => (read.1, read.2.val)) <$> action

/-- What comes after the left side of a comparison. -/
def afterLeft (scope : Scope) (left : Value) : List Token → Action (Value × List Token)
  | .equal :: rest => do
      let right ← Reading (sum scope rest)
      return (.bool (left == right.1), right.2)
  | .notEqual :: rest => do
      let right ← Reading (sum scope rest)
      return (.bool (left != right.1), right.2)
  | rest => return (left, rest)

/-- What comes after an expression in parentheses. -/
def afterGroup (value : Value) : List Token → Action (Value × List Token)
  | .rightParen :: rest => return (value, rest)
  | _ => throw .invalidSyntax

/-- What comes after an argument. -/
def afterArgument (scope : Scope) (value : Value) : List Token → Action (List Value × List Token)
  | .comma :: rest => do
      let values ← Reading (argumentsFrom scope rest)
      return (value :: values.1, values.2)
  | .rightParen :: rest => return ([value], rest)
  | _ => throw .missingSeparator

theorem reading_comparison (ts : List Token) :
    Reading (comparison scope ts) = (do
      let (left, rest) ← Reading (sum scope ts)
      afterLeft scope left rest) := by
  rw [comparison]
  simp only [Reading, map_bind, bind_map_left]
  congr 1
  funext read
  obtain ⟨left, rest, -⟩ := read
  rcases rest with _ | ⟨token, rest⟩
  · rfl
  · cases token <;> simp only [map_bind, map_pure, afterLeft, Reading, bind_map_left]

theorem reading_sum (ts : List Token) :
    Reading (sum scope ts) = (do
      let (value, rest) ← Reading (term scope ts)
      Reading (sumFrom scope value rest)) := by
  rw [sum]
  simp only [Reading, map_bind, bind_map_left, map_pure]
  rfl

theorem reading_sumFrom_plus (value : Value) (ts : List Token) :
    Reading (sumFrom scope value (.plus :: ts)) = (do
      let (right, rest) ← Reading (term scope ts)
      let value ← pass (add value right)
      Reading (sumFrom scope value rest)) := by
  rw [sumFrom]
  simp only [Reading, map_bind, bind_map_left, map_pure]
  rfl

theorem reading_sumFrom {ts : List Token} (hplus : ts.head? ≠ some .plus) (value : Value) :
    Reading (sumFrom scope value ts) = return (value, ts) := by
  rw [sumFrom]
  · rfl
  · rintro rest rfl
    exact hplus rfl

theorem reading_term_group (ts : List Token) :
    Reading (term scope (.leftParen :: ts)) = (do
      let (value, rest) ← Reading (comparison scope ts)
      afterGroup value rest) := by
  rw [term]
  simp only [Reading, map_bind, bind_map_left]
  congr 1
  funext read
  obtain ⟨value, rest, -⟩ := read
  rcases rest with _ | ⟨token, rest⟩
  · rfl
  · cases token <;> rfl

theorem reading_term_call (name : String) (ts : List Token) :
    Reading (term scope (.name name :: .leftParen :: ts)) = (do
      let (values, rest) ← Reading (arguments scope ts)
      let value ← call scope name values
      return (value, rest)) := by
  rw [term]
  simp only [Reading, map_bind, bind_map_left, map_pure]

theorem reading_term_name (name : String) {ts : List Token} (hparen : ts.head? ≠ some .leftParen) :
    Reading (term scope (.name name :: ts)) = (do
      let value ← pass (lookup scope name)
      return (value, ts)) := by
  rw [term]
  · simp only [Reading, map_bind, map_pure]
  · rintro rest rfl
    exact hparen rfl

theorem reading_arguments_none (ts : List Token) :
    Reading (arguments scope (.rightParen :: ts)) = return ([], ts) := by
  rw [arguments]
  rfl

theorem reading_arguments {ts : List Token} (hparen : ts.head? ≠ some .rightParen) :
    Reading (arguments scope ts) = Reading (argumentsFrom scope ts) := by
  rw [arguments]
  rintro rest rfl
  exact hparen rfl

theorem reading_argumentsFrom (ts : List Token) :
    Reading (argumentsFrom scope ts) = (do
      let (value, rest) ← Reading (comparison scope ts)
      afterArgument scope value rest) := by
  rw [argumentsFrom]
  simp only [Reading, map_bind, bind_map_left]
  congr 1
  funext read
  obtain ⟨value, rest, -⟩ := read
  rcases rest with _ | ⟨token, rest⟩
  · rfl
  · cases token <;> first
      | rfl
      | simp only [map_bind, map_pure, afterArgument, Reading, bind_map_left]

/-! ### From trees to values

The recursion is on the trees. What stands behind a tree must be nothing that evaluation would
take for a part of it. -/

mutual

theorem reading_comparison_tokens (tree : Comparison) {rest : List Token}
    (h : EndsComparison rest) :
    Reading (comparison scope (tree.tokens ++ rest)) = (do
      let value ← tree.eval scope
      return (value, rest)) := by
  rw [reading_comparison]
  cases tree with
  | sum sum =>
      rw [Comparison.tokens, reading_sum_tokens sum h.sum, bind_assoc]
      simp only [pure_bind, Comparison.eval]
      rcases rest with _ | ⟨token, rest⟩
      · rfl
      · cases token with
        | equal => exact absurd rfl h.equal
        | notEqual => exact absurd rfl h.notEqual
        | _ => rfl
  | equal left right =>
      have hleft : EndsSum (.equal :: (right.tokens ++ rest)) :=
        endsSum_cons (by rintro ⟨⟩) (by rintro ⟨⟩) _
      rw [Comparison.tokens, List.append_assoc, List.cons_append, reading_sum_tokens left hleft]
      simp only [bind_assoc, pure_bind, Comparison.eval, afterLeft,
        reading_sum_tokens right h.sum]
  | notEqual left right =>
      have hleft : EndsSum (.notEqual :: (right.tokens ++ rest)) :=
        endsSum_cons (by rintro ⟨⟩) (by rintro ⟨⟩) _
      rw [Comparison.tokens, List.append_assoc, List.cons_append, reading_sum_tokens left hleft]
      simp only [bind_assoc, pure_bind, Comparison.eval, afterLeft,
        reading_sum_tokens right h.sum]

theorem reading_sum_tokens (tree : Sum) {rest : List Token} (h : EndsSum rest) :
    Reading (sum scope (tree.tokens ++ rest)) = (do
      let value ← tree.eval scope
      return (value, rest)) := by
  obtain ⟨first, more⟩ := tree
  rw [reading_sum, Sum.tokens, List.append_assoc,
    reading_term_tokens first (more.endsTerm h.term)]
  simp only [bind_assoc, pure_bind, Sum.eval, reading_sumFrom_tokens more h]

theorem reading_sumFrom_tokens (tree : Addends) {rest : List Token} (h : EndsSum rest)
    (value : Value) :
    Reading (sumFrom scope value (tree.tokens ++ rest)) = (do
      let value ← tree.eval scope value
      return (value, rest)) := by
  cases tree with
  | none => exact reading_sumFrom h.plus value
  | plus term more =>
      rw [Addends.tokens, List.cons_append, List.append_assoc, reading_sumFrom_plus,
        reading_term_tokens term (more.endsTerm h.term)]
      simp only [bind_assoc, pure_bind, Addends.eval, reading_sumFrom_tokens more h]

theorem reading_term_tokens (tree : Term) {rest : List Token} (h : EndsTerm rest) :
    Reading (term scope (tree.tokens ++ rest)) = (do
      let value ← tree.eval scope
      return (value, rest)) := by
  cases tree with
  | int n =>
      rw [Term.tokens, List.singleton_append, term]
      rfl
  | str text =>
      rw [Term.tokens, List.singleton_append, term]
      rfl
  | group inner =>
      rw [Term.tokens, List.cons_append, List.append_assoc, List.singleton_append,
        reading_term_group, reading_comparison_tokens inner (endsComparison_rightParen rest)]
      simp only [bind_assoc, pure_bind, Term.eval, afterGroup]
  | name name => exact reading_term_name name h
  | call name arguments =>
      rw [Term.tokens, List.cons_append, List.cons_append, List.append_assoc, reading_term_call,
        List.singleton_append, reading_arguments_tokens arguments rest]
      simp only [bind_assoc, pure_bind, Term.eval]

theorem reading_arguments_tokens (tree : CallArguments) (rest : List Token) :
    Reading (arguments scope (tree.tokens ++ .rightParen :: rest)) = (do
      let values ← tree.eval scope
      return (values, rest)) := by
  cases tree with
  | none =>
      rw [CallArguments.tokens, List.nil_append, reading_arguments_none, CallArguments.eval,
        pure_bind]
  | some list =>
      obtain ⟨token, more, htokens, hopens⟩ := list.opens.append (.rightParen :: rest)
      have hparen : (list.tokens ++ .rightParen :: rest).head? ≠ some .rightParen := by
        rw [htokens]
        exact fun h => hopens (Option.some.inj h)
      rw [CallArguments.tokens, reading_arguments hparen, reading_argumentsFrom_tokens list rest,
        CallArguments.eval]

theorem reading_argumentsFrom_tokens (tree : ArgumentList) (rest : List Token) :
    Reading (argumentsFrom scope (tree.tokens ++ .rightParen :: rest)) = (do
      let values ← tree.eval scope
      return (values, rest)) := by
  rw [reading_argumentsFrom]
  cases tree with
  | last argument =>
      rw [ArgumentList.tokens,
        reading_comparison_tokens argument (endsComparison_rightParen rest)]
      simp only [bind_assoc, pure_bind, ArgumentList.eval, afterArgument]
  | next argument more =>
      rw [ArgumentList.tokens, List.append_assoc, List.cons_append,
        reading_comparison_tokens argument (endsComparison_comma _)]
      simp only [bind_assoc, pure_bind, ArgumentList.eval, afterArgument,
        reading_argumentsFrom_tokens more rest]

end

theorem evaluate_eq {ts : List Token} (hfull : ts ≠ []) :
    evaluate scope ts = (do
      let (value, rest) ← Reading (comparison scope ts)
      if rest.isEmpty then return value else throw .invalidSyntax) := by
  obtain ⟨token, more, rfl⟩ := List.exists_cons_of_ne_nil hfull
  rw [evaluate, Reading, bind_map_left]
  rfl

/-- The tokens of a tree have the meaning of the tree. -/
theorem evaluate_tokens (tree : Comparison) : evaluate scope tree.tokens = tree.eval scope := by
  have hfull : tree.tokens ≠ [] := by
    obtain ⟨token, more, htokens, -⟩ := tree.opens
    rw [htokens]
    exact List.cons_ne_nil token more
  have hread : Reading (comparison scope (tree.tokens ++ [])) = _ :=
    reading_comparison_tokens tree endsComparison_nil
  rw [List.append_nil] at hread
  rw [evaluate_eq hfull, hread]
  simp only [bind_assoc, pure_bind, List.isEmpty_nil, if_true, bind_pure]

/-! ### From values to trees

The recursion is that of evaluation, on the number of tokens that are left. A tree that was read
has at least one token, so that fewer are left behind it. -/

mutual

theorem comparison_gives (ts : List Token) : Gives (Reading (comparison scope ts)) fun read =>
    ∃ tree : Comparison, ts = tree.tokens ++ read.2 := by
  rw [reading_comparison]
  apply (sum_gives ts).bind
  rintro ⟨left, rest⟩ ⟨leftTree, hleft⟩
  have hshorter : rest.length < ts.length := leftTree.opens.shorter hleft
  rcases rest with _ | ⟨token, rest⟩
  · exact gives_pure ⟨.sum leftTree, hleft⟩
  · cases token with
    | equal =>
        have hshorter : rest.length < ts.length := Nat.lt_of_succ_lt hshorter
        apply (sum_gives rest).bind
        rintro ⟨right, rest'⟩ ⟨rightTree, rfl⟩
        refine gives_pure ⟨.equal leftTree rightTree, ?_⟩
        rw [hleft, Comparison.tokens, List.append_assoc, List.cons_append]
    | notEqual =>
        have hshorter : rest.length < ts.length := Nat.lt_of_succ_lt hshorter
        apply (sum_gives rest).bind
        rintro ⟨right, rest'⟩ ⟨rightTree, rfl⟩
        refine gives_pure ⟨.notEqual leftTree rightTree, ?_⟩
        rw [hleft, Comparison.tokens, List.append_assoc, List.cons_append]
    | _ => exact gives_pure ⟨.sum leftTree, hleft⟩
termination_by (ts.length, 3)

theorem sum_gives (ts : List Token) : Gives (Reading (sum scope ts)) fun read =>
    ∃ tree : Sum, ts = tree.tokens ++ read.2 := by
  rw [reading_sum]
  apply (term_gives ts).bind
  rintro ⟨value, rest⟩ ⟨first, hfirst⟩
  have hshorter : rest.length < ts.length := first.opens.shorter hfirst
  apply (sumFrom_gives value rest).imp
  rintro ⟨value', rest'⟩ ⟨more, rfl⟩
  refine ⟨.terms first more, ?_⟩
  rw [hfirst, Sum.tokens, List.append_assoc]
termination_by (ts.length, 2)

theorem sumFrom_gives (value : Value) (ts : List Token) :
    Gives (Reading (sumFrom scope value ts)) fun read =>
      ∃ tree : Addends, ts = tree.tokens ++ read.2 := by
  by_cases hplus : ts.head? = some .plus
  · obtain ⟨ts, rfl⟩ : ∃ more, ts = .plus :: more := List.head?_eq_some_iff.mp hplus
    rw [reading_sumFrom_plus]
    apply (term_gives ts).bind
    rintro ⟨right, rest⟩ ⟨tree, hterm⟩
    have hshorter : rest.length < ts.length := tree.opens.shorter hterm
    apply gives_bind
    intro value'
    apply (sumFrom_gives value' rest).imp
    rintro ⟨value'', rest'⟩ ⟨more, rfl⟩
    refine ⟨.plus tree more, ?_⟩
    rw [hterm, Addends.tokens, List.cons_append, List.append_assoc]
  · rw [reading_sumFrom hplus]
    exact gives_pure ⟨.none, rfl⟩
termination_by (ts.length, 1)

theorem term_gives (ts : List Token) : Gives (Reading (term scope ts)) fun read =>
    ∃ tree : Term, ts = tree.tokens ++ read.2 := by
  rcases ts with _ | ⟨token, ts⟩
  · rw [term]
    · exact gives_throw
    all_goals nofun
  · cases token with
    | int n =>
        rw [term]
        exact gives_pure ⟨.int n, rfl⟩
    | str text =>
        rw [term]
        exact gives_pure ⟨.str text, rfl⟩
    | leftParen =>
        rw [reading_term_group]
        apply (comparison_gives ts).bind
        rintro ⟨value, rest⟩ ⟨inner, hinner⟩
        rcases rest with _ | ⟨token, rest⟩
        · exact gives_throw
        · cases token with
          | rightParen =>
              refine gives_pure ⟨.group inner, ?_⟩
              rw [hinner, Term.tokens, List.cons_append, List.append_assoc, List.singleton_append]
          | _ => exact gives_throw
    | name name =>
        by_cases hparen : ts.head? = some .leftParen
        · obtain ⟨ts, rfl⟩ : ∃ more, ts = .leftParen :: more := List.head?_eq_some_iff.mp hparen
          rw [reading_term_call]
          apply (arguments_gives ts).bind
          rintro ⟨values, rest⟩ ⟨arguments, rfl⟩
          apply gives_bind
          intro value
          refine gives_pure ⟨.call name arguments, ?_⟩
          rw [Term.tokens, List.cons_append, List.cons_append, List.append_assoc,
            List.singleton_append]
        · rw [reading_term_name name hparen]
          apply gives_bind
          intro value
          exact gives_pure ⟨.name name, rfl⟩
    | _ =>
        rw [term]
        · exact gives_throw
        all_goals nofun
termination_by (ts.length, 1)

theorem arguments_gives (ts : List Token) : Gives (Reading (arguments scope ts)) fun read =>
    ∃ tree : CallArguments, ts = tree.tokens ++ .rightParen :: read.2 := by
  by_cases hparen : ts.head? = some .rightParen
  · obtain ⟨ts, rfl⟩ : ∃ more, ts = .rightParen :: more := List.head?_eq_some_iff.mp hparen
    rw [reading_arguments_none]
    exact gives_pure ⟨.none, rfl⟩
  · rw [reading_arguments hparen]
    apply (argumentsFrom_gives ts).imp
    rintro ⟨values, rest⟩ ⟨list, rfl⟩
    exact ⟨.some list, rfl⟩
termination_by (ts.length, 5)

theorem argumentsFrom_gives (ts : List Token) :
    Gives (Reading (argumentsFrom scope ts)) fun read =>
      ∃ tree : ArgumentList, ts = tree.tokens ++ .rightParen :: read.2 := by
  rw [reading_argumentsFrom]
  apply (comparison_gives ts).bind
  rintro ⟨value, rest⟩ ⟨argument, hargument⟩
  have hshorter : rest.length < ts.length := argument.opens.shorter hargument
  rcases rest with _ | ⟨token, rest⟩
  · exact gives_throw
  · cases token with
    | comma =>
        have hshorter : rest.length < ts.length := Nat.lt_of_succ_lt hshorter
        apply (argumentsFrom_gives rest).bind
        rintro ⟨values, rest'⟩ ⟨more, rfl⟩
        refine gives_pure ⟨.next argument more, ?_⟩
        rw [hargument, ArgumentList.tokens, List.append_assoc, List.cons_append]
    | rightParen => exact gives_pure ⟨.last argument, hargument⟩
    | _ => exact gives_throw
termination_by (ts.length, 4)

end

/-- Only the tokens of a tree have a value. -/
theorem evaluate_gives (ts : List Token) : Gives (evaluate scope ts) fun _ =>
    ∃ tree : Comparison, ts = tree.tokens := by
  rcases eq_or_ne ts [] with rfl | hfull
  · exact gives_throw
  · rw [evaluate_eq hfull]
    apply (comparison_gives ts).bind
    rintro ⟨value, rest⟩ ⟨tree, rfl⟩
    rcases rest with _ | ⟨token, rest⟩
    · exact gives_pure ⟨tree, List.append_nil _⟩
    · exact gives_throw

/-- Evaluation reads the grammar and no more: tokens that a tree stands for have the value of the
tree, or fail at the first fault in it, with the calls of the tree in their order and no others;
tokens that no tree stands for have no value, whatever the host answers. -/
theorem evaluate_follows_grammar (scope : Scope) (ts : List Token) :
    (∀ tree : Comparison, tree.tokens = ts → evaluate scope ts = tree.eval scope) ∧
    ((¬ ∃ tree : Comparison, tree.tokens = ts) →
      (evaluate scope ts).run.Ends fun result => ∀ value, result ≠ .ok value) := by
  constructor
  · rintro tree rfl
    exact evaluate_tokens tree
  · intro hnone
    apply Dialogue.Ends.imp (evaluate_gives ts)
    intro result hgives value hvalue
    obtain ⟨tree, htokens⟩ := hgives value hvalue
    exact hnone ⟨tree, htokens.symm⟩

theorem evaluate_follows_grammar_of_sum :
    (evaluate ⟨[], [], []⟩ [.int 1, .plus, .int 2]).run = .done (.ok (.int 3)) ∧
      (evaluate ⟨[], [], []⟩ [.rightParen]).run.Ends fun result => ∀ value, result ≠ .ok value := by
  constructor
  · let tree : Comparison := .sum (.terms (.int 1) (.plus (.int 2) .none))
    have htree := (evaluate_follows_grammar ⟨[], [], []⟩ tree.tokens).1 tree rfl
    exact congrArg ExceptT.run htree
  · refine (evaluate_follows_grammar _ _).2 ?_
    rintro ⟨tree, htokens⟩
    obtain ⟨token, more, hopens, hright⟩ := tree.opens
    exact hright (List.cons.inj (hopens.symm.trans htokens)).1

end Expression
end ScriptConsole.Script
