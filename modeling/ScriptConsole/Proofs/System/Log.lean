import ScriptConsole.Proofs.Session.Course
import ScriptConsole.System.Basic

/-!
The log of a system: what its session notes, what its workers post and how their requests for
input end, in the order in which it happens. A run of a system is any sequence of its steps.
-/

namespace ScriptConsole

variable {σ : Type}

/-- The first deed with the answer of a host; `none` if there is none to do. -/
def Deed.done? {ω α : Type} (host : Deed.Host ω) : Deed α → ω → Option Done
  | .done _, _ => none
  | .write content _, w => some (.wrote content (host.write content w).1)
  | .spawn _, w => some (.spawned (host.spawn w).1)
  | .post worker command _, w => some (.posted worker command (host.post worker command w).1)
  | .terminate worker _, _ => some (.terminated worker)
  | .discard worker _, _ => some (.discarded worker)

/-- What is noted of the next step of a lane. -/
def Lane.notes (lane : Lane σ) (worker : Nat) (buffer : SharedBuffer) (now : Nat)
    (storage : Storage) : List Note :=
  match lane.task with
  | .busy (.post event _) => if lane.stopped then [] else [.said worker event]
  | .waiting wait _ =>
      match wait.step now lane.stopped (lane.read buffer storage) with
      | .ended result _ => [.ended worker wait.request result]
      | .waiting _ => []
  | _ => []

/-- What is noted of the next step of a worker. -/
def World.notes (world : World σ) (worker : Nat) : List Note :=
  match world.lanes[worker]? with
  | none => []
  | some lane => lane.notes worker world.buffer world.clock world.storage

/-- Where the session of a system is. -/
def Activity.stage : Activity → Stage
  | resting session _ => .resting session
  | acting move _ => .acting move
  | listening session goal _ => .listening session goal

namespace System

def stage (system : System σ) : Stage :=
  system.activity.stage

/-- What is noted when a session hears something. -/
def hearing (session : Session) (goal : Listening) (heard : Heard) : List Note :=
  match session.live with
  | none => []
  | some worker => .heard worker heard :: Stage.notes (session.hear goal heard)

/-- What is noted of a step of a system. -/
def notes (system : System σ) : Label → List Note
  | .call call =>
      match system.activity with
      | .resting session _ => .called call :: Stage.notes (session.call call)
      | _ => []
  | .deed =>
      match system.activity with
      | .acting move _ =>
          match move.done? World.host system.world, move.step? World.host system.world with
          | some done, some (next, _) => .did done :: Stage.notes next
          | _, _ => []
      | _ => []
  | .hear =>
      match system.activity with
      | .listening session goal _ =>
          match session.live >>= system.world.event? with
          | some (event, _) => hearing session goal (.event event)
          | none => []
      | _ => []
  | .quiet =>
      match system.activity with
      | .listening session goal _ => hearing session goal .quiet
      | _ => []
  | .gone =>
      match system.activity with
      | .listening session goal _ => hearing session goal .gone
      | _ => []
  | .work worker => system.world.notes worker
  | .crash _ | .pass _ | .jam _ => []

/-- A system can have this log and be in this state after steps of any kind in any order. -/
inductive Run (start : System σ) : List Note → System σ → Prop where
  | start : Run start [] start
  | step {log : List Note} {system system' : System σ} {label : Label} (h : Run start log system)
      (hstep : system.step label = some system') : Run start (log ++ system.notes label) system'

/-- What is noted of a sequence of steps. -/
def log (system : System σ) : List Label → List Note
  | [] => []
  | label :: labels =>
      match system.step label with
      | none => []
      | some system' => system.notes label ++ system'.log labels

theorem Run.append {start system system' : System σ} {log : List Note} {labels : List Label}
    (h : Run start log system) (hsteps : system.steps labels = some system') :
    Run start (log ++ system.log labels) system' := by
  induction labels generalizing log system with
  | nil =>
      cases hsteps
      simpa only [System.log, List.append_nil] using h
  | cons label labels ih =>
      simp only [steps, Option.bind_eq_bind, Option.bind_eq_some_iff] at hsteps
      obtain ⟨next, hstep, hsteps⟩ := hsteps
      simpa only [System.log, hstep, List.append_assoc] using ih (h.step hstep) hsteps

theorem Run.of_steps {start system : System σ} {labels : List Label}
    (hsteps : start.steps labels = some system) : Run start (start.log labels) system :=
  Run.start.append hsteps

end System

/-! ### What the steps do -/

namespace World

/-- What a deed of the session does to its surroundings, with the answer that it gets. -/
inductive Does (world : World σ) : Done → World σ → Prop where
  | wrote {content : Content} {storage : Storage}
      (hwrite : world.buffer.write content world.storage = .ok storage) :
      Does world (.wrote content (.ok ())) { world with storage }
  | unwritten (content : Content) (cause : BufferError) :
      Does world (.wrote content (.error cause)) world
  | spawned (hreachable : world.channel = .piped → world.buffer.isReachable = true) :
      Does world (.spawned (.ok ())) { world with
        lanes := world.lanes ++ [.new (.new world.interpreter world.channel.source)] }
  | unspawned (cause : TransportError) : Does world (.spawned (.error cause)) world
  | posted {worker : Nat} {command : Command} {lane : Lane σ}
      (hlane : world.lanes[worker]? = some lane) (hopen : lane.stopped = false)
      (hgoes : lane.isEnded = false) :
      Does world (.posted worker command (.ok ())) { world with
        lanes := world.lanes.set worker
          { lane with inbox := lane.inbox ++ world.channel.carry Command.format command } }
  | unposted (worker : Nat) (command : Command) (cause : TransportError) :
      Does world (.posted worker command (.error cause)) world
  | terminated (worker : Nat) : Does world (.terminated worker) (world.terminate worker)
  | discarded (worker : Nat) : Does world (.discarded worker) (world.terminate worker)

/-- What the surroundings do when the session makes a note. -/
inductive Follows (world : World σ) : Note → World σ → Prop where
  | called (call : Session.Call) : Follows world (.called call) world
  | did {done : Done} {world' : World σ} (hdoes : world.Does done world') :
      Follows world (.did done) world'
  | heard {worker : Nat} {lane : Lane σ} {event : Event} {outbox : List Event}
      (hlane : world.lanes[worker]? = some lane) (houtbox : lane.outbox = event :: outbox) :
      Follows world (.heard worker (.event event))
        { world with lanes := world.lanes.set worker { lane with outbox } }
  | quiet (worker : Nat) : Follows world (.heard worker .quiet) world
  | gone {worker : Nat} (hgone : world.isGone worker = true) :
      Follows world (.heard worker .gone) world

theorem follows_of_event {worker : Nat} {event : Event} {world world' : World σ}
    (hevent : world.event? worker = some (event, world')) :
    world.Follows (.heard worker (.event event)) world' := by
  simp only [event?, Option.bind_eq_bind, Option.bind_eq_some_iff] at hevent
  obtain ⟨lane, hlane, hhead⟩ := hevent
  split at hhead
  · cases hhead
  · rename_i houtbox
    cases hhead
    exact .heard hlane houtbox

theorem does_of_write {content : Content} {world : World σ} :
    world.Does (.wrote content (world.write content).1) (world.write content).2 := by
  cases hjam : world.jam with
  | some cause =>
      have hwrite : world.write content = (.error (.io cause), world) := by simp only [write, hjam]
      rw [hwrite]
      exact .unwritten content _
  | none =>
      cases hstorage : world.buffer.write content world.storage with
      | error cause =>
          have hwrite : world.write content = (.error cause, world) := by
            simp only [write, hjam, hstorage]
          rw [hwrite]
          exact .unwritten content cause
      | ok storage =>
          have hwrite : world.write content = (.ok (), { world with storage }) := by
            simp only [write, hjam, hstorage]
          rw [hwrite]
          exact .wrote hstorage

theorem does_of_spawn {world : World σ} : world.Does (.spawned world.spawn.1) world.spawn.2 := by
  by_cases hunreachable : world.channel = .piped ∧ ¬ world.buffer.isReachable
  · have hspawn : world.spawn = (.error (.unreachableBuffer world.buffer.url), world) :=
      if_pos hunreachable
    rw [hspawn]
    exact .unspawned _
  · have hspawn : world.spawn = (.ok (), { world with
        lanes := world.lanes ++ [.new (.new world.interpreter world.channel.source)] }) :=
      if_neg hunreachable
    rw [hspawn]
    exact .spawned fun hpiped => by simpa using mt (And.intro hpiped) hunreachable

theorem does_of_post {worker : Nat} {command : Command} {world : World σ} :
    world.Does (.posted worker command (world.post worker command).1)
      (world.post worker command).2 := by
  simp only [post]
  cases hlane : world.lanes[worker]? with
  | none => exact .unposted _ _ _
  | some lane =>
      simp only [Lane.post]
      split
      · have hsame : world.lanes.set worker lane = world.lanes := by
          obtain ⟨hlt, hget⟩ := List.getElem?_eq_some_iff.mp hlane
          rw [← hget, List.set_getElem_self]
        rw [hsame]
        exact .unposted _ _ _
      · rename_i hopen
        simp only [Bool.or_eq_true, not_or, Bool.not_eq_true] at hopen
        exact .posted hlane hopen.1 hopen.2

theorem step_does {move next : Move} {world world' : World σ}
    (hstep : move.step? World.host world = some (next, world')) :
    ∃ done, move.done? World.host world = some done ∧ move.Goes done next ∧
      world.Does done world' := by
  cases move with
  | done result => cases hstep
  | write content more =>
      cases hstep
      exact ⟨_, rfl, .write _, does_of_write⟩
  | spawn more =>
      cases hstep
      exact ⟨_, rfl, .spawn _, does_of_spawn⟩
  | post worker command more =>
      cases hstep
      exact ⟨_, rfl, .post _, does_of_post⟩
  | terminate worker more =>
      cases hstep
      exact ⟨_, rfl, .terminate, .terminated worker⟩
  | discard worker more =>
      cases hstep
      exact ⟨_, rfl, .discard, .discarded worker⟩

end World

namespace System

variable {system system' : System σ}

theorem stage_act (system : System σ) (kept : Option Until) (move : Move) :
    (system.act kept move).stage = Stage.ofMove move := by
  cases move with
  | done stand =>
      obtain ⟨turn, session⟩ := stand
      cases turn <;> rfl
  | _ => rfl

theorem hearing_goes {session : Session} {worker : Nat} (hlive : session.live = some worker)
    (system : System σ) (goal : Listening) (stop : Until) (heard : Heard) :
    ∃ more, hearing session goal heard = .heard worker heard :: more ∧
      (Stage.listening session goal).Goes (.heard worker heard :: more)
        (system.tell session goal stop heard).stage := by
  refine ⟨Stage.notes (session.hear goal heard), by simp only [hearing, hlive], ?_⟩
  rw [tell, stage_act]
  exact .hear hlive heard

/-- A step of a system is a step of its session, one of a worker, or neither changes. -/
theorem step_cases {label : Label} (hstep : system.step label = some system') :
    (∃ note more, system.notes label = note :: more ∧
        system.stage.Goes (note :: more) system'.stage ∧ system.world.Follows note system'.world) ∨
      (∃ worker lane lane' storage, label = .work worker ∧
        system.world.lanes[worker]? = some lane ∧
        lane.step system.world.channel system.world.buffer system.world.clock
          system.world.storage = some (lane', storage) ∧
        system.notes label =
          lane.notes worker system.world.buffer system.world.clock system.world.storage ∧
        system' = { system with world := { system.world with
          lanes := system.world.lanes.set worker lane', storage } }) ∨
      (system.notes label = [] ∧ system'.activity = system.activity ∧
        ((∃ worker, label = .crash worker ∧ system'.world = system.world.crash worker) ∨
          (∃ milliseconds, label = .pass milliseconds ∧
            system'.world = system.world.pass milliseconds) ∨
          ∃ cause, label = .jam cause ∧ system'.world = { system.world with jam := cause })) := by
  obtain ⟨world, activity⟩ := system
  cases label with
  | call call =>
      cases activity with
      | resting session last =>
          cases hstep
          refine .inl ⟨_, _, rfl, ?_, .called call⟩
          rw [stage_act]
          exact .call session call
      | _ => cases hstep
  | deed =>
      cases activity with
      | acting move kept =>
          simp only [step, Option.bind_eq_bind, Option.bind_eq_some_iff, Option.pure_def,
            Option.some.injEq, Prod.exists] at hstep
          obtain ⟨next, world', hmove, rfl⟩ := hstep
          obtain ⟨done, hdone, hgoes, hdoes⟩ := World.step_does hmove
          refine .inl ⟨.did done, Stage.notes next, ?_, ?_, .did hdoes⟩
          · simp only [notes, hdone, hmove]
          · rw [stage_act]
            exact .deed hgoes
      | _ => cases hstep
  | hear =>
      cases activity with
      | listening session goal stop =>
          simp only [step, Option.bind_eq_bind, Option.bind_eq_some_iff, Prod.exists] at hstep
          obtain ⟨worker, hlive, event, world', hevent, hmay⟩ := hstep
          split at hmay
          · cases hmay
            obtain ⟨more, hnotes, hgoes⟩ := hearing_goes hlive
              ⟨world', .listening session goal stop⟩ goal stop (.event event)
            refine .inl ⟨_, more, ?_, hgoes, World.follows_of_event hevent⟩
            simp only [notes, hlive, Option.bind_eq_bind, Option.bind_some, hevent, hnotes]
          · cases hmay
      | _ => cases hstep
  | quiet =>
      cases activity with
      | listening session goal stop =>
          simp only [step, Option.bind_eq_bind, Option.bind_eq_some_iff] at hstep
          obtain ⟨worker, hlive, hmay⟩ := hstep
          split at hmay
          · cases hmay
            obtain ⟨more, hnotes, hgoes⟩ := hearing_goes hlive
              ⟨world, .listening session goal stop⟩ goal stop .quiet
            exact .inl ⟨_, more, hnotes, hgoes, .quiet worker⟩
          · cases hmay
      | _ => cases hstep
  | gone =>
      cases activity with
      | listening session goal stop =>
          simp only [step, Option.bind_eq_bind, Option.bind_eq_some_iff] at hstep
          obtain ⟨worker, hlive, hmay⟩ := hstep
          split at hmay
          · rename_i hgone
            cases hmay
            obtain ⟨more, hnotes, hgoes⟩ := hearing_goes hlive
              ⟨world, .listening session goal stop⟩ goal stop .gone
            exact .inl ⟨_, more, hnotes, hgoes, .gone (Bool.and_eq_true_iff.mp hgone).1⟩
          · cases hmay
      | _ => cases hstep
  | work worker =>
      simp only [step, World.work, Option.bind_eq_bind, Option.bind_eq_some_iff, Option.pure_def,
        Option.some.injEq, Prod.exists] at hstep
      obtain ⟨world', ⟨lane, hlane, lane', storage, hlaneStep, rfl⟩, rfl⟩ := hstep
      -- What a worker does is noted, too, though the session does not see it.
      refine .inr (.inl ⟨worker, lane, lane', storage, rfl, hlane, hlaneStep, ?_, rfl⟩)
      simp only [notes, World.notes, hlane]
  | crash worker =>
      cases hstep
      exact .inr (.inr ⟨rfl, rfl, .inl ⟨worker, rfl, rfl⟩⟩)
  | pass milliseconds =>
      cases hstep
      exact .inr (.inr ⟨rfl, rfl, .inr (.inl ⟨milliseconds, rfl, rfl⟩)⟩)
  | jam cause =>
      cases hstep
      exact .inr (.inr ⟨rfl, rfl, .inr (.inr ⟨cause, rfl, rfl⟩)⟩)

end System
end ScriptConsole
