import ScriptConsole.Interpreter
import ScriptConsole.Session.Run
import ScriptConsole.Worker.Bridge

/-!
What a session is measured by: one interpreter at a console of its own, without a worker. What
the user types is shown there at once, and so is all that a text does up to its end or up to the
next line that it asks for.
-/

namespace ScriptConsole

/-- The entry for a text that may be missing or empty, if there is one. -/
def Entry.ofText? (kind : EntryKind) : Option String → List Entry
  | none => []
  | some text => if text = "" then [] else [⟨kind, text⟩]

/-- A text that runs on an interpreter. -/
abbrev Execution (σ : Type) : Type :=
  Dialogue (Ending (Option String) × σ)

/-- What an interpreter is at when it goes on no further by itself. -/
inductive Pause (σ : Type) where
  | idle (state : σ)
  /-- A text has asked for a line. -/
  | asking (next : Except HostError String → Execution σ)

structure Reference (σ : Type) where
  /-- The lines of the statement that is being typed. -/
  statements : StatementBuffer
  entries : List Entry
  outcomes : List RunOutcome
  pause : Pause σ

namespace RunOutcome

def ofEnding : Ending (Option String) → RunOutcome
  | .ok output => completed output
  | .raised error => failed error.text
  | .panicked message => failed (panicReason message)

/-- What is shown of a result, if there is one, or of a failure. -/
def entries : RunOutcome → List Entry
  | completed output => (output.map (⟨.output, ·⟩)).toList
  | failed error => [⟨.error, error⟩]

end RunOutcome

namespace Reference

variable {σ : Type}

def new (state : σ) : Reference σ :=
  ⟨.empty, [], [], .idle state⟩

def print (reference : Reference σ) (entries : List Entry) : Reference σ :=
  { reference with entries := reference.entries ++ entries }

/-- Everything up to the next pause of a text. -/
def resume (reference : Reference σ) : Execution σ → Reference σ
  | .done (ending, state) =>
      let outcome := RunOutcome.ofEnding ending
      { reference.print outcome.entries with
        outcomes := reference.outcomes ++ [outcome]
        pause := .idle state }
  | .stdout text next => (reference.print [⟨.output, text⟩]).resume (next (.ok ()))
  | .stderr text next => (reference.print [⟨.error, text⟩]).resume (next (.ok ()))
  | .stdin prompt next =>
      { reference.print (Entry.ofText? .output prompt) with pause := .asking next }

/-- Load what a text imports, and run the text if that succeeded. -/
def execute (interpreter : Interpreter σ) (code : String) (state : σ) : Execution σ :=
  (interpreter.load code state).bind fun
    | (.ok (), state) => interpreter.run code state
    | (.raised error, state) => .done (.raised error, state)
    | (.panicked message, state) => .done (.panicked message, state)

/-- The user types a line: the answer to a text that asks for one, else a part of a statement. -/
def line (interpreter : Interpreter σ) (reference : Reference σ) (text : String) : Reference σ :=
  match reference.pause with
  | .asking next =>
      let answer := String.ofList (Text.dropLineEnd text.toList)
      (reference.print [⟨.input, answer⟩]).resume (next (.ok answer))
  | .idle state =>
      match reference.statements.push text with
      | (.statement code, statements) =>
          let echo := String.ofList (Text.trimEnd code.toList)
          ({ reference with statements }.print [⟨.input, echo⟩]).resume
            (execute interpreter code state)
      | (_, statements) => { reference with statements }

/-- The user has typed these lines. -/
def ofLines (interpreter : Interpreter σ) (state : σ) (typed : List String) : Reference σ :=
  typed.foldl (line interpreter) (new state)

theorem execute_eq (interpreter : Interpreter σ) (code : String) (state : σ) :
    execute interpreter code state = interpreter.loadAndRun code state := by
  refine congrArg (Dialogue.bind _) (funext fun loaded => ?_)
  obtain ⟨ending, state⟩ := loaded
  cases ending <;> rfl

variable {r : Reference σ} {shown : List Entry}

theorem line_asking {interpreter : Interpreter σ} {next : Except HostError String → Execution σ}
    (hpause : r.pause = .asking next) (text : String) :
    r.line interpreter text =
      (r.print [⟨.input, String.ofList (Text.dropLineEnd text.toList)⟩]).resume
      (next (.ok (String.ofList (Text.dropLineEnd text.toList)))) := by
  obtain ⟨statements, entries, outcomes, pause⟩ := r
  cases hpause
  rfl

theorem line_statement {interpreter : Interpreter σ} {state : σ} {text code : String}
    {statements : StatementBuffer} (hpause : r.pause = .idle state)
    (hpush : r.statements.push text = (.statement code, statements)) :
    r.line interpreter text =
      ({ r with statements }.print [⟨.input, String.ofList (Text.trimEnd code.toList)⟩]).resume
        (execute interpreter code state) := by
  obtain ⟨before, entries, outcomes, pause⟩ := r
  cases hpause
  simp only [line, hpush]

theorem line_part {interpreter : Interpreter σ} {state : σ} {text : String} {outcome : LineOutcome}
    {statements : StatementBuffer} (hpause : r.pause = .idle state)
    (hpush : r.statements.push text = (outcome, statements))
    (hpart : ∀ code, outcome ≠ .statement code) :
    r.line interpreter text = { r with statements } := by
  obtain ⟨before, entries, outcomes, pause⟩ := r
  cases hpause
  simp only [line, hpush]

/-- The reference is what comes of a text when this has been shown. -/
def Comes (r : Reference σ) (shown : List Entry) (execution : Execution σ) : Prop :=
  ∃ left : Reference σ, left.statements = .empty ∧
    r = { left with entries := shown }.resume execution

theorem comes_of_statement {interpreter : Interpreter σ} {state : σ} {text code : String}
    (hpause : r.pause = .idle state) (hpush : r.statements.push text = (.statement code, .empty)) :
    (r.line interpreter text).Comes
      (r.entries ++ [⟨.input, String.ofList (Text.trimEnd code.toList)⟩])
      (execute interpreter code state) :=
  ⟨{ r with statements := .empty }, rfl, line_statement hpause hpush⟩

theorem Comes.stdout {text : String} {next : Except HostError Unit → Execution σ}
    (h : r.Comes shown (.stdout text next)) :
    r.Comes (shown ++ [⟨.output, text⟩]) (next (.ok ())) := h

theorem Comes.stderr {text : String} {next : Except HostError Unit → Execution σ}
    (h : r.Comes shown (.stderr text next)) :
    r.Comes (shown ++ [⟨.error, text⟩]) (next (.ok ())) := h

theorem Comes.stdin {prompt : Option String} {next : Except HostError String → Execution σ}
    (h : r.Comes shown (.stdin prompt next)) :
    r.entries = shown ++ Entry.ofText? .output prompt ∧ r.statements = .empty ∧
      r.pause = .asking next := by
  obtain ⟨left, hempty, rfl⟩ := h
  exact ⟨rfl, hempty, rfl⟩

theorem Comes.done {ending : Ending (Option String)} {state : σ}
    (h : r.Comes shown (.done (ending, state))) :
    r.entries = shown ++ (RunOutcome.ofEnding ending).entries ∧ r.statements = .empty ∧
      r.pause = .idle state ∧ r.outcomes.getLast? = some (RunOutcome.ofEnding ending) := by
  obtain ⟨left, hempty, rfl⟩ := h
  exact ⟨rfl, hempty, rfl, List.getLast?_concat⟩

end Reference

/-! ### Events -/

/-- The event that reports how a run ended. -/
def RunOutcome.event : RunOutcome → Event
  | completed output => .runOk output
  | failed error => .runFailed error

theorem Entry.ofText?_prompt (kind : EntryKind) (prompt : Option String) :
    ofText? kind (Bridge.prompt prompt) = ofText? kind prompt := by
  cases prompt with
  | none => rfl
  | some text =>
      by_cases hempty : text = ""
      · simp only [Bridge.prompt, ofText?, if_pos hempty]
      · simp only [Bridge.prompt, ofText?, if_neg hempty]

namespace Event

/-- What a session shows of an event. -/
def entries : Event → List Entry
  | .init _ _ => []
  | .run success output error =>
      if success then Entry.ofText? .output output
      else [⟨.error, error.getD Session.unknownError⟩]
  | .stdout text => [⟨.output, text⟩]
  | .stderr text => [⟨.error, text⟩]
  | .input _ prompt => Entry.ofText? .output prompt

def IsWrite : Event → Prop
  | .stdout _ | .stderr _ => True
  | _ => False

end Event

theorem RunOutcome.entries_event {outcome : RunOutcome}
    (houtcome : outcome ≠ .completed (some "")) :
    outcome.event.entries = outcome.entries := by
  cases outcome with
  | failed error => rfl
  | completed output =>
    cases output with
    | none => rfl
    | some text =>
      have htext : text ≠ "" := by
        rintro rfl
        exact houtcome rfl
      simp [event, Event.runOk, Event.entries, Entry.ofText?, entries, htext]

end ScriptConsole

