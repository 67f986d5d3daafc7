import ScriptConsole.Proofs.Script.Hosts
import ScriptConsole.Proofs.Script.Modules

/-!
A text step by step. Its modules are loaded one by one, then its items follow; a block evaluates
its condition in a step of its own, which puts the chosen statements in front of what is to come.
-/

namespace ScriptConsole.Script

open Dialogue (Call)

/-- A piece of a text that comes to a place of its own between the pieces around it. -/
inductive Step where
  | load (module : String)
  | item (piece : Item)

namespace Step

def statements (texts : List (List Char)) : List Step :=
  texts.map fun text => .item (.simple text)

/-- What the step does. It comes to a value, and to steps that go before those to come. -/
def perform (last : Option Value) : Step → Running (Option Value × List Step)
  | load module => do
      loadModules [module]
      return (last, [])
  | item (.simple text) => return (← execute text, [])
  | item (.branch condition body orelse) => do
      let value ← observe fun scope => do
        Expression.evaluate scope (← Expression.pass (Token.tokenize condition))
      return (none, statements (if value.isTruthy then body else orelse))
  | item (.malformed fault) => throw fault

/-- The whole of what comes of a step. -/
def run (last : Option Value) : Step → Running (Option Value)
  | load module => do
      loadModules [module]
      return last
  | item piece => piece.run

/-- The step may come to these steps. -/
inductive Opens : Step → List Step → Prop where
  | nothing (step : Step) : Opens step []
  | body (condition : List Char) (body orelse : List (List Char)) :
      Opens (.item (.branch condition body orelse)) (statements body)
  | orelse (condition : List Char) (body orelse : List (List Char)) :
      Opens (.item (.branch condition body orelse)) (statements orelse)

/-- How many steps there are in a step at most. -/
def weight : Step → Nat
  | load _ => 1
  | item (.simple _) => 1
  | item (.branch _ body orelse) => body.length + orelse.length + 1
  | item (.malformed _) => 1

/-- How many steps there are in all at most. -/
def total : List Step → Nat
  | [] => 0
  | step :: steps => step.weight + total steps

theorem total_append (steps more : List Step) :
    total (steps ++ more) = total steps + total more := by
  induction steps with
  | nil => exact (Nat.zero_add _).symm
  | cons step steps ih => rw [List.cons_append, total, total, ih, Nat.add_assoc]

theorem total_statements (texts : List (List Char)) : total (statements texts) = texts.length := by
  induction texts with
  | nil => rfl
  | cons text texts ih =>
      rw [statements, List.map_cons, total, List.length_cons, weight, Nat.add_comm]
      exact congrArg (· + 1) ih

theorem Opens.total_lt {step : Step} {more : List Step} (h : step.Opens more) :
    total more < step.weight := by
  cases h with
  | nothing =>
      rcases step with module | text | condition | fault
      all_goals exact Nat.succ_pos _
  | body condition body orelse =>
      rw [total_statements, weight]
      omega
  | orelse condition body orelse =>
      rw [total_statements, weight]
      omega

end Step

/-- Take steps in order; the value is that of the last statement. -/
def runSteps (last : Option Value) : List Step → Running (Option Value)
  | [] => return last
  | step :: steps => do runSteps (← step.run last) steps

/-- The steps of a text that is run. -/
def runningSteps (code : String) : List Step :=
  (Item.ofLines (SourceLine.ofText code)).map Step.item

/-- The steps of a text that is loaded and run. -/
def program (code : String) : List Step :=
  (namedModules code).map Step.load ++ runningSteps code

theorem runSteps_statements (last : Option Value) (texts : List (List Char)) (steps : List Step) :
    runSteps last (Step.statements texts ++ steps) =
      executeAll last texts >>= fun value => runSteps value steps := by
  induction texts generalizing last with
  | nil =>
      rw [executeAll, pure_bind]
      rfl
  | cons text texts ih =>
      rw [executeAll, bind_assoc]
      exact congrArg (execute text >>= ·) (funext fun value => ih value)

theorem runSteps_cons (last : Option Value) (step : Step) (steps : List Step) :
    runSteps last (step :: steps) =
      step.perform last >>= fun opened => runSteps opened.1 (opened.2 ++ steps) := by
  rw [runSteps]
  rcases step with module | text | ⟨condition, body, orelse⟩ | fault
  · simp only [Step.run, Step.perform, bind_assoc, pure_bind, List.nil_append]
  · simp only [Step.run, Item.run, Step.perform, bind_assoc, pure_bind, List.nil_append]
  · simp only [Step.run, Item.run, Step.perform, bind_assoc, pure_bind, runSteps_statements]
  · rfl

theorem runSteps_items (last : Option Value) (items : List Item) :
    runSteps last (items.map Step.item) = Item.runAll last items := by
  induction items generalizing last with
  | nil => rfl
  | cons item items ih =>
      rw [Item.runAll]
      exact congrArg (item.run >>= ·) (funext fun value => ih value)

theorem runSteps_loads (last : Option Value) (modules : List String) (steps : List Step) :
    runSteps last (modules.map Step.load ++ steps) =
      loadModules modules >>= fun _ => runSteps last steps := by
  induction modules with
  | nil =>
      rw [loadModules, pure_bind]
      rfl
  | cons module modules ih =>
      rw [loadModules_cons, bind_assoc, ← ih, List.map_cons, List.cons_append, runSteps, Step.run,
        bind_assoc]
      simp only [pure_bind]

theorem run_eq (available : List String) (code : String) (scope : Scope) :
    (interpreter available).run code scope =
      conclude ((runSteps none (runningSteps code)).run scope) := by
  rw [runningSteps, runSteps_items]
  exact run_of_items rfl scope

/-- To load a text and run it is to take its steps. -/
theorem loadAndRun_eq (available : List String) (code : String) (scope : Scope) :
    (interpreter available).loadAndRun code scope =
      conclude ((runSteps none (program code)).run scope) := by
  rw [program, runSteps_loads, run_bind, conclude, Dialogue.bind_assoc]
  show ((((loadImports code).run scope).bind _ : Dialogue _).bind _ : Dialogue _) = _
  rw [Dialogue.bind_assoc]
  refine congrArg (Dialogue.bind _) (funext fun ended => ?_)
  obtain ⟨outcome, scope⟩ := ended
  cases outcome with
  | error fault => rfl
  | ok _ =>
      exact run_eq available code scope

theorem Step.perform_opens (last : Option Value) (step : Step) (scope : Scope) :
    Leads ((step.perform last).run scope) fun opened => step.Opens opened.2 := by
  have hpure {opened : Option Value × List Step} {scope : Scope} (h : step.Opens opened.2) :
      Leads ((pure opened : Running _).run scope) fun opened => step.Opens opened.2 := by
    rintro _ ⟨⟩
    exact h
  rcases step with module | text | ⟨condition, body, orelse⟩ | fault
  · exact leads_bind fun _ _ => hpure (.nothing _)
  · exact leads_bind fun _ _ => hpure (.nothing _)
  · refine leads_bind fun value _ => hpure ?_
    cases value.isTruthy with
    | true => exact .body condition body orelse
    | false => exact .orelse condition body orelse
  · exact leads_throw fault scope

theorem Step.opens_of_freely {last value : Option Value} {step : Step} {more : List Step}
    {scope scope' : Scope} {answers : List (Except HostError String)} {calls : List Call}
    {host : Dialogue.ListHost} (h : ((step.perform last).run scope).freely answers =
      (calls, (.ok (value, more), scope'), host)) : step.Opens more :=
  Dialogue.Ends.of_freely (step.perform_opens last scope) h (value, more) rfl

theorem Step.freely_load (last : Option Value) (module : String) (scope : Scope)
    (answers : List (Except HostError String)) :
    (((Step.load module).perform last).run scope).freely answers =
      if scope.lacks module then
        ([notice module], (.ok (last, []), scope.load module), ⟨answers, none⟩)
      else ([], (.ok (last, []), scope), ⟨answers, none⟩) := by
  rw [Step.perform, run_bind, loadModules_singleton]
  split
  · rfl
  · rfl

/-! ### Places -/

/-- A place in a text that is run: the value of the last statement, the steps to come, the scope
and what will be answered. -/
structure Place where
  last : Option Value
  steps : List Step
  scope : Scope
  answers : List (Except HostError String)

namespace Place

/-- What is still to come. -/
def rest (place : Place) : Passage (Option Value) :=
  (runSteps place.last place.steps).run place.scope

theorem rest_cons (last : Option Value) (step : Step) (steps : List Step) (scope : Scope)
    (answers : List (Except HostError String)) :
    (Place.mk last (step :: steps) scope answers).rest =
      ((step.perform last).run scope).bind (goOn fun opened scope =>
        (Place.mk opened.1 (opened.2 ++ steps) scope answers).rest) := by
  rw [rest, runSteps_cons, run_bind]
  rfl

end Place

/-- With a host that lets every write through, the text comes from one place to another: the steps
between them go well, with these calls. -/
inductive Completes : Place → List Call → Place → Prop where
  | refl (place : Place) : Completes place [] place
  | step {last value : Option Value} {step : Step} {more steps : List Step} {scope scope' : Scope}
      {answers answers' : List (Except HostError String)} {calls calls' : List Call}
      {place : Place}
      (hstep : ((step.perform last).run scope).freely answers =
        (calls, (.ok (value, more), scope'), ⟨answers', none⟩))
      (h : Completes ⟨value, more ++ steps, scope', answers'⟩ calls' place) :
      Completes ⟨last, step :: steps, scope, answers⟩ (calls ++ calls') place

/-- What comes of a text is what comes of it from a later place on. -/
theorem Completes.freely_rest {start place : Place} {calls : List Call}
    (h : Completes start calls place) : start.rest.freely start.answers =
      (calls ++ (place.rest.freely place.answers).1, (place.rest.freely place.answers).2) := by
  induction h with
  | refl place => rfl
  | @step _ _ _ _ _ _ _ _ _ calls _ _ hstep _ ih =>
      rw [Place.rest_cons, Dialogue.freely_bind hstep, List.append_assoc]
      exact congrArg (fun run => (calls ++ run.1, run.2)) ih

theorem Completes.freely_of_done {start place : Place} {calls : List Call}
    {ended : Except Fault (Option Value) × Scope} (h : Completes start calls place)
    (hdone : place.rest = .done ended) :
    start.rest.freely start.answers = (calls, ended, ⟨place.answers, none⟩) := by
  rw [h.freely_rest, hdone, Dialogue.freely, Dialogue.runWith, List.append_nil]

end ScriptConsole.Script
