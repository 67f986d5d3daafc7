import ScriptConsole.Proofs.Script.Blocks
import ScriptConsole.Proofs.System.Faithful

/-!
The session as a mirror of the interpreter: from the start on, whenever the user may type, it
shows what the reference shows.
-/

namespace ScriptConsole

variable {σ : Type}

namespace Session

/-- The session is at the same point as the reference and shows the same. -/
structure Mirrors (session : Session) (r : Reference σ) : Prop where
  entries : session.transcript.entries = r.entries
  asking : session.isAwaitingInput = true ↔ ∃ next, r.pause = .asking next
  ready : (r.outcomes ≠ [] ∨ ∃ next, r.pause = .asking next) → session.phase = .ready
  idle : (∃ state, r.pause = .idle state) →
    session.isRunPending = false ∧ session.lastRun = r.outcomes.getLast?

variable {session : Session} {r : Reference σ}

/-- The session does not listen at once for its worker to boot. -/
def IsPrompt (move : Move) : Prop :=
  ∀ after session, move ≠ .done (.listen (.boot after), session)

theorem submit_isPrompt (session : Session) (code : String) (result : Reply) :
    IsPrompt (session.submit code result) := by
  intro after session'
  rw [submit]
  split
  · rintro ⟨⟩
  · split
    · rw [postRun]
      split <;> rintro ⟨⟩
    · rw [launch, letGo]
      split <;> rintro ⟨⟩

theorem takeLine_isPrompt (session : Session) (text : String) :
    IsPrompt (session.takeLine text) := by
  intro after session'
  rw [takeLine]
  obtain ⟨outcome, statements⟩ := session.statements.push text
  cases outcome with
  | statement source => exact submit_isPrompt _ source _ after session'
  | input answer =>
      show writeInput _ answer _ ≠ _
      rw [writeInput]
      split <;> rintro ⟨⟩
  | ignored => rintro ⟨⟩
  | incomplete => rintro ⟨⟩

theorem line_isPrompt (session : Session) (text : String) :
    IsPrompt (session.call (.line text)) := by
  intro after session'
  rw [call, line]
  split
  · rw [awaitSilence]
    split
    · rw [afterPoll]
      split
      · exact takeLine_isPrompt session text after session'
      · rintro ⟨⟩
    · rw [listen]
      split <;> rintro ⟨⟩
  · split
    · rintro ⟨⟩
    · exact takeLine_isPrompt session text after session'

theorem IsTyping.mirrors {state : σ} (h : session.IsTyping r) (hshows : session.Shows r.entries)
    (hpending : session.pending = none) (hpause : r.pause = .idle state)
    (hready : r.outcomes ≠ [] → session.phase = .ready) : session.Mirrors r := by
  have hidle : ¬ ∃ next, r.pause = .asking next := by
    rintro ⟨next, hasking⟩
    cases hpause.symm.trans hasking
  constructor
  · exact hshows.entries
  · rw [isAwaitingInput, h.statements, h.typing]
    simp only [Bool.false_eq_true, false_iff]
    exact hidle
  · exact fun hready' => hready (hready'.resolve_right hidle)
  · intro _
    rw [isRunPending, hpending]
    exact ⟨rfl, h.lastRun⟩

theorem HasAsked.mirrors {answers : Nat} {request : UInt64}
    {next : Except HostError String → Execution σ} (h : session.HasAsked request)
    (hsits : session.Sits answers r.entries) (hpause : r.pause = .asking next) :
    session.Mirrors r := by
  constructor
  · exact hsits.shows.entries
  · rw [isAwaitingInput, h.statements]
    exact ⟨fun _ => ⟨next, hpause⟩, fun _ => rfl⟩
  · exact fun _ => hsits.phase
  · rintro ⟨state, hidle⟩
    cases hpause.symm.trans hidle

end Session

/-- Nothing keeps a session from writing its buffer or a worker from reaching it, and no worker
was spawned yet. -/
structure World.IsSound (world : World σ) : Prop where
  lanes : world.lanes = []
  clear : world.jam = none
  writable : world.buffer.IsWritable world.storage
  reaches : world.channel = .piped → world.buffer.isReachable = true ∧ world.buffer.Named

namespace System

variable {service : Service σ} {config : Config} {limit : Nat} {r : Reference σ}
  {system : System σ}

theorem InScene.mirrors (h : system.InScene service config limit r) {session : Session}
    (hturn : system.IsTurn session) : session.Mirrors r := by
  obtain ⟨world, activity⟩ := system
  obtain ⟨answers, place, -, -, -, hscene⟩ := h
  obtain ⟨last, hrests, hfinished⟩ := hturn
  obtain rfl : activity = .resting session last := hrests
  cases hscene with
  | fresh hfresh hpending htyping houtcomes hpause hmay =>
      exact htyping.mirrors hfresh.shows hpending hpause fun hsome => absurd houtcomes hsome
  | idle hsits hpending htyping hcalm hpause hmay =>
      exact htyping.mirrors hsits.shows hpending hpause fun _ => hsits.phase
  | running hsits hbusy htells hunfinished =>
      cases hunfinished.symm.trans (hfinished _ rfl)
  | asked hsits hasked hcalm hpause hstatements => exact hasked.mirrors hsits hpause

/-- A session at the beginning, in surroundings in which its worker will boot. -/
theorem inScene_new {world : World σ} (hsound : world.IsSound)
    (hinterpreter : world.interpreter = service.interpreter)
    (hsource : world.channel.source = service.source)
    (hsetup : Command.boot config world.buffer.url = .init service.setup) :
    (System.new world config).InScene service config 0 (Reference.new service.state) := by
  refine ⟨0, .vacant, Nat.le_refl 0, ?_, hsound.lanes, ?_⟩
  · exact ⟨hinterpreter, hsource, hsetup, hsound.clear, hsound.writable, hsound.reaches⟩
  · have hurl : service.setup.bufferUrl = world.buffer.url := by
      rw [Command.boot, Command.init.injEq] at hsetup
      rw [← hsetup]
    refine .fresh ⟨rfl, hurl.symm, rfl, rfl, rfl, rfl, rfl⟩ rfl ⟨rfl, rfl, rfl⟩ rfl rfl (.inl rfl)

theorem inTime_new (world : World σ) (config : Config) : (System.new world config).InTime := by
  rintro _ _ _ ⟨⟩

end System

namespace Script

/-- The interpreter of the language at the service of a session whose scripts may wait for a line
as long as they like. -/
def service (available : List String) (source : BufferSource) (url : String) (config : Config)
    (scope : Scope) (hboots : boot available ⟨config.baseUrl, config.packages⟩ = .ready scope)
    (huntimed : config.inputTimeoutMs = none) : Service Scope where
  interpreter := interpreter available
  source := source
  setup := ⟨config.baseUrl, url, config.packages, config.inputTimeoutMs,
    some config.pollIntervalMs⟩
  state := scope
  boots := hboots
  untimed := huntimed
  isPlain := interpreter_isPlain available

end Script

theorem Activity.eq_done_of_listening {now : Nat} {kept : Option Until} {move : Move}
    {session : Session} {goal : Listening} {stop : Until}
    (h : Activity.ofMove now kept move = .listening session goal stop) :
    move = .done (.listen goal, session) := by
  cases move with
  | done result =>
      obtain ⟨turn, session'⟩ := result
      cases turn with
      | reply reply => cases h
      | listen goal' =>
          cases h
          rfl
  | write content next => cases h
  | spawn next => cases h
  | post worker command next => cases h
  | terminate worker next => cases h
  | discard worker next => cases h

namespace System

theorem Sitting.exists_line {begin : System σ} {typed : List String}
    (h : begin.Sitting typed system) {session : Session} (hturn : system.IsTurn session)
    (text : String) : ∃ system', begin.Sitting (typed ++ [text]) system' := by
  obtain ⟨last, hrests, -⟩ := id hturn
  have hstep : system.step (.call (.line text)) =
      some (system.act none (session.call (.line text))) := by
    rw [System.step, hrests]
  refine ⟨_, h.step (by exact ⟨session, hturn⟩) hstep ?_⟩
  intro session' after deadline hlistening
  exact absurd (Activity.eq_done_of_listening hlistening)
    (session.line_isPrompt text after session')

variable {available : List String} {world : World Script.Scope} {config : Config}
  {scope : Script.Scope} {typed : List String} {system : System Script.Scope}

theorem inScene_script (hsound : world.IsSound)
    (hinterpreter : world.interpreter = Script.interpreter available)
    (hboots : Script.boot available ⟨config.baseUrl, config.packages⟩ = .ready scope)
    (huntimed : config.inputTimeoutMs = none) :
    (System.new world config).InScene (Script.service available world.channel.source
      world.buffer.url config scope hboots huntimed) config 0 (Reference.new scope) :=
  inScene_new hsound hinterpreter rfl rfl

theorem exists_patience (hpatient : config.initTimeoutMs ≠ some 0) (limit : Duration)
    (hlimit : config.initTimeout = some limit) : 0 < limit.milliseconds := by
  obtain ⟨ms, hms, rfl⟩ := Option.map_eq_some_iff.mp hlimit
  have hnonzero : ms ≠ 0 := by
    rintro rfl
    exact hpatient hms
  exact Nat.pos_of_ne_zero fun hzero => hnonzero (UInt64.toNat_inj.mp hzero)

/-- The user can type these lines, one when it is their turn after the other. -/
theorem exists_sitting (hsound : world.IsSound)
    (hinterpreter : world.interpreter = Script.interpreter available)
    (hboots : Script.boot available ⟨config.baseUrl, config.packages⟩ = .ready scope)
    (huntimed : config.inputTimeoutMs = none) (hpatient : config.initTimeoutMs ≠ some 0)
    (htyped : typed.length ≤ UInt64.size) :
    ∃ system session, (System.new world config).Sitting typed system ∧
      system.IsTurn session := by
  have hscene := inScene_script hsound hinterpreter hboots huntimed
  have hturn {typed : List String} {system : System Script.Scope}
      (h : (System.new world config).Sitting typed system) (htyped : typed.length ≤ UInt64.size) :
      ∃ system session, (System.new world config).Sitting typed system ∧ system.IsTurn session := by
    obtain ⟨hintime, hafter⟩ := h.inScene hscene (inTime_new world config)
    obtain ⟨system', session, hmore, hturn⟩ :=
      hafter.canType hintime htyped (exists_patience hpatient)
    have hsitting := h.trans hmore
    rw [List.append_nil] at hsitting
    exact ⟨system', session, hsitting, hturn⟩
  induction typed using List.reverseRecOn with
  | nil => exact hturn .begin htyped
  | append_singleton typed text ih =>
      have hbefore : typed.length ≤ UInt64.size := by
        rw [List.length_append] at htyped
        omega
      obtain ⟨system, session, hsitting, hbegun⟩ := ih hbefore
      obtain ⟨system', hline⟩ := hsitting.exists_line hbegun text
      exact hturn hline htyped

/-- Whatever the order of the steps, a session whose worker boots in time and whose scripts may
wait for a line as long as they like does what the interpreter does without a worker: whenever
the user may type, the session has shown the same entries, the last run has had the same outcome,
and the session is ready once a text has run. And from wherever the sitting has got to, the user
can get to type again, unless more lines were typed than there are numbers for them. -/
theorem sitting_mirrors_reference (hsound : world.IsSound)
    (hinterpreter : world.interpreter = Script.interpreter available)
    (hboots : Script.boot available ⟨config.baseUrl, config.packages⟩ = .ready scope)
    (huntimed : config.inputTimeoutMs = none)
    (h : (System.new world config).Sitting typed system) :
    (∀ session, system.IsTurn session →
      session.Mirrors (Reference.ofLines (Script.interpreter available) scope typed)) ∧
    (config.initTimeoutMs ≠ some 0 → typed.length ≤ UInt64.size → system.CanType) := by
  obtain ⟨hintime, hscene⟩ := h.inScene (inScene_script hsound hinterpreter hboots huntimed)
    (inTime_new world config)
  refine ⟨fun session => hscene.mirrors, fun hpatient hlimit => ?_⟩
  exact hscene.canType hintime hlimit (exists_patience hpatient)

end System

/-! ### A script that asks -/

namespace Script

/-- A text that asks for a line and shows it. -/
def echo : String :=
  "print(input(\"? \"))"

/-- What the text means. -/
def echoTree : Grammar.Comparison :=
  let input : Grammar.Comparison :=
    .sum (.terms (.call "input" (.some (.last (.sum (.terms (.str "? ") .none))))) .none)
  .sum (.terms (.call "print" (.some (.last input))) .none)

theorem execute_echo : execute echo.toList = do
    match ← observe fun scope => echoTree.eval scope with
    | .nothing => return none
    | value => return some value := by
  have htokens : Token.tokenize echo.toList = .ok echoTree.tokens := by with_unfolding_all rfl
  have hread (tokens : List Token) :
      (observe fun _ => Expression.pass (.ok tokens) : Running (List Token)) = pure tokens := rfl
  rw [execute, if_neg (by decide), if_neg (by decide), htokens, hread, pure_bind]
  simp only [← Expression.evaluate_tokens]
  rfl

theorem execution_echo (scope : Scope) :
    Reference.execute (interpreter []) (echo ++ "\n") scope = .stdin (some "? ") fun
      | .ok answer => .stdout answer fun
        | .ok () => .done (.ok none, scope)
        | .error cause => .done (.raised (Fault.host cause).toScriptError, scope)
      | .error cause => .done (.raised (Fault.host cause).toScriptError, scope) := by
  have hitems : Item.ofLines (SourceLine.ofText (echo ++ "\n")) = [.simple echo.toList] := by
    with_unfolding_all rfl
  have hload : (interpreter []).load (echo ++ "\n") scope = .done (.ok (), scope) := by
    with_unfolding_all rfl
  rw [Reference.execute, hload]
  show (interpreter []).run (echo ++ "\n") scope = _
  rw [run_of_items hitems, Item.runAll, Item.run, execute_echo]
  refine congrArg (Dialogue.stdin (some "? ")) (funext fun answer => ?_)
  cases answer with
  | error cause => rfl
  | ok answer =>
      refine congrArg (Dialogue.stdout answer) (funext fun written => ?_)
      cases written <;> rfl

theorem ofLines_echo (scope : Scope) : Reference.ofLines (interpreter []) scope [echo, "yes"] =
    ⟨.empty, [⟨.input, echo⟩, ⟨.output, "? "⟩, ⟨.input, "yes"⟩, ⟨.output, "yes"⟩],
      [.completed none], .idle scope⟩ := by
  have hpush : (Reference.new scope).statements.push echo =
      (.statement (echo ++ "\n"), .empty) := by
    change StatementBuffer.empty.push echo = _
    decide
  have hfirst : (Reference.new scope).line (interpreter []) echo = _ :=
    Reference.line_statement rfl hpush
  rw [execution_echo] at hfirst
  rw [Reference.ofLines, List.foldl_cons, hfirst, List.foldl_cons, List.foldl_nil,
    Reference.line_asking rfl]
  rfl

end Script

namespace System

theorem sitting_mirrors_echo :
    ∃ system session,
      (System.new (.new (Script.interpreter []) .direct (.memory "0") .empty) .default).Sitting
        [Script.echo, "yes"] system ∧
      system.IsTurn session ∧ session.phase = .ready ∧ session.lastRun = some (.completed none) ∧
      session.transcript.entries =
        [⟨.input, Script.echo⟩, ⟨.output, "? "⟩, ⟨.input, "yes"⟩, ⟨.output, "yes"⟩] := by
  have hsound : (World.new (Script.interpreter []) .direct (.memory "0") .empty).IsSound :=
    ⟨rfl, rfl, ⟨.empty, _, rfl⟩, by rintro ⟨⟩⟩
  have hboots : Script.boot [] ⟨Config.default.baseUrl, Config.default.packages⟩ =
      .ready ⟨[], [], []⟩ := rfl
  have htyped : [Script.echo, "yes"].length ≤ UInt64.size := by decide
  obtain ⟨system, session, hsitting, hturn⟩ :=
    exists_sitting hsound rfl hboots rfl (by decide) htyped
  have hmirrors := (sitting_mirrors_reference hsound rfl hboots rfl hsitting).1 session hturn
  rw [Script.ofLines_echo] at hmirrors
  exact ⟨system, session, hsitting, hturn, hmirrors.ready (.inl (List.cons_ne_nil _ _)),
    (hmirrors.idle ⟨_, rfl⟩).2, hmirrors.entries⟩

end System
end ScriptConsole
