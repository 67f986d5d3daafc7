import ScriptConsole.Proofs.System.Run

/-!
What a worker has yet to do, as one piece of work: what it is at, and then the commands that wait
for it. A step of its lane either does the first thing of that work or only brings it nearer.
-/

namespace ScriptConsole

variable {σ : Type}

namespace Worker

/-- Go on with a worker whose reply was taken. -/
def proceed (more : Worker σ → Work (Option (Worker σ))) :
    Except TransportError Unit × Worker σ → Work (Option (Worker σ))
  | (.ok (), worker) => more worker
  | (.error _, _) => .done none

/-- Attend to commands one after the other: the worker afterwards, unless a reply was not taken. -/
def attend : List Command → Worker σ → Work (Option (Worker σ))
  | [], worker => .done (some worker)
  | command :: commands, worker => (worker.handle command).bind (proceed (attend commands))

/-- Attend to more commands, if there is a worker to do so. -/
def attendMore (commands : List Command) : Option (Worker σ) → Work (Option (Worker σ))
  | none => .done none
  | some worker => attend commands worker

theorem attend_append (first second : List Command) (worker : Worker σ) :
    attend (first ++ second) worker = (attend first worker).bind (attendMore second) := by
  induction first generalizing worker with
  | nil => rfl
  | cons command first ih =>
      rw [List.cons_append, attend, attend, Work.bind_assoc]
      refine congrArg _ (funext fun result => ?_)
      obtain ⟨cause | ⟨⟨⟩⟩, left⟩ := result
      · rfl
      · exact ih left

theorem proceed_attend_append (first second : List Command)
    (result : Except TransportError Unit × Worker σ) :
    proceed (attend (first ++ second)) result =
      (proceed (attend first) result).bind (attendMore second) := by
  obtain ⟨cause | ⟨⟨⟩⟩, worker⟩ := result
  · rfl
  · exact attend_append first second worker

end Worker

namespace Work

variable {α : Type}

/-- The first thing of a work is done, where the buffer holds this content. -/
inductive Advances (content : Content) : Work α → List Event → Work α → Prop where
  | post {event : Event} {next : Except Refusal Unit → Work α} :
      Advances content (.post event next) [event] (next (.ok ()))
  | opened {url : String} {interval : Duration} {next : Except BufferError Unit → Work α} :
      Advances content (.openBuffer url interval next) [] (next (.ok ()))
  | answered {bridge : Bridge} {request sequence : UInt64} {text : String}
      {next : Except HostError String → Bridge → Work α}
      (hcontent : content = .line request sequence text)
      (hnewer : content.isNewerThan bridge.lastSequence = true) :
      Advances content (.await bridge request next) []
        (next (.ok text) { bridge with lastSequence := some sequence })

/-- A wait that comes first is not timed, and nothing in the buffer but an answer ends it. -/
def Heeds (content : Content) : Work α → Prop
  | .await bridge request _ => bridge.timeout = none ∧
      (content.isNewerThan bridge.lastSequence = true →
        ∃ sequence text, content = .line request sequence text)
  | _ => True

/-- There is a first thing to do that need not wait for anything. -/
def IsReady (content : Content) : Work α → Prop
  | .done _ => False
  | .await bridge _ _ => content.isNewerThan bridge.lastSequence = true
  | _ => True

end Work

namespace Lane

/-- What the worker has yet to do. -/
def ahead (lane : Lane σ) : Work (Option (Worker σ)) :=
  match lane.task with
  | .idle worker => worker.attend lane.inbox
  | .busy work => work.bind (Worker.proceed (Worker.attend lane.inbox))
  | .waiting wait next => .await wait.bridge wait.request fun line bridge =>
      (next line bridge).bind (Worker.proceed (Worker.attend lane.inbox))
  | .ended => .done none

theorem ahead_post (lane : Lane σ) (commands : List Command) :
    ({ lane with inbox := lane.inbox ++ commands } : Lane σ).ahead =
      lane.ahead.bind (Worker.attendMore commands) := by
  obtain ⟨task, file, inbox, outbox, stopped⟩ := lane
  cases task with
  | idle worker => exact Worker.attend_append inbox commands worker
  | busy work =>
      rw [ahead, ahead, Work.bind_assoc]
      exact congrArg _ (funext fun result => Worker.proceed_attend_append inbox commands result)
  | waiting wait next =>
      refine congrArg (Work.await _ _) (funext fun line => funext fun bridge => ?_)
      rw [Work.bind_assoc]
      exact congrArg _ (funext fun result => Worker.proceed_attend_append inbox commands result)
  | ended => rfl

theorem ahead_of_isEnded {lane : Lane σ} (hended : lane.isEnded = true) :
    lane.ahead = .done none := by
  obtain ⟨task, file, inbox, outbox, stopped⟩ := lane
  cases task with
  | ended => rfl
  | _ => cases hended

/-- How many steps it takes at most until the first thing ahead is done, if it can be done. -/
def delay (lane : Lane σ) : Nat :=
  5 * lane.inbox.length +
    match lane.task with
    | .busy (.done _) => 4
    | .idle _ => 3
    | .busy (.await _ _ _) => 2
    | .waiting ⟨_, _, _, .checking⟩ _ => 1
    | _ => 0

/-- A worker has gone on. -/
inductive Proceeds (content : Content) (lane lane' : Lane σ) : Prop where
  | nears (hahead : lane'.ahead = lane.ahead) (houtbox : lane'.outbox = lane.outbox)
      (hdelay : lane.ahead.IsReady content → lane'.delay < lane.delay)
  | advances (events : List Event) (hadvances : lane.ahead.Advances content events lane'.ahead)
      (houtbox : lane'.outbox = lane.outbox ++ events)

variable {channel : Channel} {buffer : SharedBuffer} {content : Content} {now : Nat}
  {storage storage' : Storage} {lane lane' : Lane σ}

theorem delay_busy_le (work : Work (Except TransportError Unit × Worker σ))
    (file : Option FileBuffer) (inbox : List Command) (outbox : List Event) (stopped : Bool) :
    delay ⟨.busy work, file, inbox, outbox, stopped⟩ ≤ 5 * inbox.length + 4 := by
  cases work <;> simp [delay]

theorem Sane.step (h : lane.Sane channel.source buffer)
    (hnamed : channel.source = .byUrl → buffer.Named) (hholds : buffer.Holds content storage)
    (hstep : lane.step channel buffer now storage = some (lane', storage')) :
    lane'.Sane channel.source buffer ∧ storage' = storage := by
  obtain ⟨mode, hfits⟩ := h.fits
  obtain ⟨mode', hfits', hgoes⟩ := lane.step_goes 0 hfits h.setups hstep
  rw [h.reads.read_eq] at hgoes
  exact h.goes hnamed hholds hfits' hgoes

theorem lookOn_proceeds {wait : Bridge.Wait} {next file inbox outbox}
    (huntimed : wait.bridge.timeout = none)
    (hheeds : content.isNewerThan wait.bridge.lastSequence = true →
      ∃ sequence text, content = .line wait.request sequence text)
    (hlook : lookOn (σ := σ) ⟨.waiting wait next, file, inbox, outbox, false⟩ wait next
      (wait.step now false (.ok content)) = some lane') :
    lane'.stopped = false ∧
      Proceeds content ⟨.waiting wait next, file, inbox, outbox, false⟩ lane' := by
  obtain ⟨bridge, request, since, stage⟩ := wait
  replace huntimed : bridge.timeout = none := huntimed
  cases stage with
  | checking =>
      simp only [Bridge.Wait.step, Bridge.Wait.check, Bridge.allowance, huntimed,
        Bool.false_eq_true, if_false, lookOn] at hlook
      rw [if_neg (by simp)] at hlook
      cases hlook
      exact ⟨rfl, .nears rfl rfl fun _ => by simp [delay]⟩
  | reading deadline =>
      simp only [Bridge.Wait.step, Bridge.Wait.look] at hlook
      by_cases hnewer : content.isNewerThan bridge.lastSequence = true
      · obtain ⟨sequence, text, rfl⟩ := hheeds hnewer
        simp only [hnewer, if_true, Bridge.Wait.receive, lookOn] at hlook
        cases hlook
        exact ⟨rfl, .advances [] (.answered rfl hnewer) (List.append_nil _).symm⟩
      · rw [if_neg hnewer] at hlook
        split at hlook
        · rw [lookOn, if_neg (by simp)] at hlook
          cases hlook
          exact ⟨rfl, .nears rfl rfl fun hready => absurd hready hnewer⟩
        · rw [lookOn, if_pos rfl] at hlook
          cases hlook

theorem step_proceeds (hopen : lane.stopped = false) (hsane : lane.Sane channel.source buffer)
    (hnamed : channel.source = .byUrl → buffer.Named) (hholds : buffer.Holds content storage)
    (hheeds : lane.ahead.Heeds content)
    (hstep : lane.step channel buffer now storage = some (lane', storage')) :
    lane'.stopped = false ∧ lane.Proceeds content lane' := by
  obtain ⟨task, file, inbox, outbox, stopped⟩ := lane
  cases hopen
  cases task with
  | ended => cases hstep
  | idle worker =>
      cases inbox with
      | nil => cases hstep
      | cons command inbox =>
          cases hstep
          refine ⟨rfl, .nears rfl rfl fun _ => ?_⟩
          refine Nat.lt_of_le_of_lt (delay_busy_le _ _ _ _ _) ?_
          simp only [delay, List.length_cons]
          omega
  | busy work =>
      cases work with
      | done result =>
          obtain ⟨cause | ⟨⟨⟩⟩, worker⟩ := result
          · cases hstep
            exact ⟨rfl, .nears rfl rfl fun hready => hready.elim⟩
          · cases hstep
            exact ⟨rfl, .nears rfl rfl fun _ => by simp [delay]⟩
      | post event next =>
          simp only [step, postEvent, Bool.false_eq_true, if_false, Channel.carry_event] at hstep
          cases hstep
          exact ⟨rfl, .advances [event] .post rfl⟩
      | await bridge request next =>
          cases hstep
          exact ⟨rfl, .nears rfl rfl fun _ => by simp [delay, Bridge.await]⟩
      | openBuffer url interval next =>
          obtain ⟨mode, hfits⟩ := hsane.fits
          cases hfits with
          | busy hwork =>
              cases hwork with
              | openBuffer hsource hnext =>
                  -- The session has written the buffer, so that there is a file to open.
                  obtain ⟨opened, hopened, -⟩ := hholds.exists_ofUrl (hnamed hsource)
                  simp only [step, hopened] at hstep
                  cases hstep
                  exact ⟨rfl, .advances [] .opened (List.append_nil _).symm⟩
  | waiting wait next =>
      simp only [step, hsane.reads.read_eq, hholds.read, Option.map_eq_some_iff,
        Prod.mk.injEq] at hstep
      obtain ⟨looker, hlook, rfl, -⟩ := hstep
      exact lookOn_proceeds hheeds.1 hheeds.2 hlook

theorem exists_step (hopen : lane.stopped = false) (hsane : lane.Sane channel.source buffer)
    (hnamed : channel.source = .byUrl → buffer.Named) (hholds : buffer.Holds content storage)
    (hheeds : lane.ahead.Heeds content) (hready : lane.ahead.IsReady content) :
    ∃ lane', lane.step channel buffer now storage = some (lane', storage) ∧
      lane'.stopped = false ∧ lane.Proceeds content lane' := by
  suffices ∃ after, lane.step channel buffer now storage = some after by
    obtain ⟨⟨lane', storage'⟩, hstep⟩ := this
    obtain rfl := (hsane.step hnamed hholds hstep).2
    exact ⟨lane', hstep, step_proceeds hopen hsane hnamed hholds hheeds hstep⟩
  obtain ⟨task, file, inbox, outbox, stopped⟩ := lane
  cases hopen
  cases task with
  | ended => exact hready.elim
  | idle worker =>
      cases inbox with
      | nil => exact hready.elim
      | cons command inbox => exact ⟨_, rfl⟩
  | busy work =>
      cases work with
      | done result =>
          obtain ⟨cause | ⟨⟨⟩⟩, worker⟩ := result
          · exact ⟨_, rfl⟩
          · exact ⟨_, rfl⟩
      | post event next => exact ⟨_, rfl⟩
      | await bridge request next => exact ⟨_, rfl⟩
      | openBuffer url interval next =>
          simp only [step]
          split
          · exact ⟨_, rfl⟩
          · exact ⟨_, rfl⟩
  | waiting wait next =>
      obtain ⟨bridge, request, since, stage⟩ := wait
      have huntimed : bridge.timeout = none := hheeds.1
      have hnewer : content.isNewerThan bridge.lastSequence = true := hready
      simp only [step, hsane.reads.read_eq, hholds.read]
      cases stage with
      | checking =>
          simp only [Bridge.Wait.step, Bridge.Wait.check, Bridge.allowance, huntimed,
            Bool.false_eq_true, if_false, lookOn]
          rw [if_neg (by simp)]
          exact ⟨_, rfl⟩
      | reading deadline =>
          obtain ⟨sequence, text, hcontent⟩ := hheeds.2 hready
          simp only [Bridge.Wait.step, Bridge.Wait.look, hnewer, if_true]
          rw [hcontent]
          simp only [Bridge.Wait.receive, if_true, lookOn]
          exact ⟨_, rfl⟩

end Lane
end ScriptConsole
