import ScriptConsole.Proofs.Session.Answering
import ScriptConsole.Proofs.Session.Mailbox

/-!
Starting a worker in place of the one that is there. What the new worker says first about booting
decides how the start ends; what it says before that is shown, and what the old one might still
have said is never heard.
-/

namespace ScriptConsole

namespace Event

/-- The worker says how booting ended. -/
def IsInit : Event → Prop
  | .init _ _ => True
  | _ => False

/-- What a session shows of an event while its worker boots. -/
def bootEntries : Event → List Entry
  | .run _ _ _ => []
  | event => event.entries

end Event

namespace Session

/-! ### How a start ends -/

/-- A run that is pending is given up. -/
def rejection (session : Session) : List Entry :=
  if session.isRunPending then [⟨.error, (TransportError.terminated .run).message⟩] else []

/-- How the last run has ended once a run that is pending is given up. -/
def rejected (session : Session) : Option RunOutcome :=
  if session.isRunPending then some (.failed (TransportError.terminated .run).message)
  else session.lastRun

/-- The worker is let go of, if there is one. -/
def parting (session : Session) : List Note :=
  session.live.toList.map fun worker => .did (.terminated worker)

/-- All that is done before the new worker says anything. -/
def opening (session : Session) : List Note :=
  session.parting ++ [.did (.wrote .empty (.ok ())), .did (.spawned (.ok ())),
    .did (.posted session.spawned (.boot session.config session.bufferUrl) (.ok ()))]

/-- Everything that was heard so far came from this worker. -/
def HearsOnly (worker : Nat) (notes : List Note) : Prop :=
  ∀ speaker heard, .heard speaker heard ∈ notes → speaker = worker

/-- How a start goes on when the new worker has been told to boot. It has said `front` by then and
nothing about booting. -/
inductive BootEnds (worker : Nat) (box : Mailbox) (front : List Event) :
    List Note → Turn × Session → Mailbox → Prop where
  | ready {error : Option String} {back : List Event} {notes : List Note} {last : Session}
      (hbox : box.events = front ++ .init true error :: back) (hphase : last.phase = .ready)
      (hlive : last.live = some worker) (hpending : last.pending = none) :
      BootEnds worker box front notes (.reply (.ok .done), last) ⟨back, box.closed⟩
  | refused {error : Option String} {back : List Event} {notes : List Note} {last : Session}
      (hbox : box.events = front ++ .init false error :: back)
      (hphase : last.phase = .uninitialized) (hlive : last.live = none) :
      BootEnds worker box front (notes ++ [.did (.terminated worker)])
        (.reply (.error (.boot (error.getD unknownError))), last) ⟨back, box.closed⟩
  | lost {notes : List Note} {last : Session} (hbox : box = ⟨front, true⟩)
      (hphase : last.phase = .uninitialized) (hlive : last.live = none) :
      BootEnds worker box front (notes ++ [.did (.terminated worker)])
        (.reply (.error (.transport .disconnected)), last) ⟨[], true⟩
  | silence {notes : List Note} {last : Session} (hbox : box = ⟨front, false⟩)
      (hpending : last.pending = some .init) :
      BootEnds worker box front notes (.listen (.boot .reply), last) ⟨[], false⟩

/-- How a start ends: the buffer cannot be cleared, a worker cannot be spawned or it cannot be told
to boot; or it is, and what it says decides. -/
inductive StartEnds (session : Session) (box : Mailbox) :
    List Note → Turn × Session → Mailbox → Prop where
  | uncleared {last : Session} (cause : BufferError) :
      StartEnds session box (session.parting ++ [.did (.wrote .empty (.error cause))])
        (.reply (.error (.buffer cause)), last) box
  | unspawned {last : Session} (cause : TransportError) :
      StartEnds session box (session.parting ++ [.did (.wrote .empty (.ok ())),
        .did (.spawned (.error cause))]) (.reply (.error (.transport cause)), last) box
  | untold {last : Session} (cause : TransportError) :
      StartEnds session box (session.parting ++ [.did (.wrote .empty (.ok ())),
        .did (.spawned (.ok ())),
        .did (.posted session.spawned (.boot session.config session.bufferUrl) (.error cause)),
        .did (.discarded session.spawned)]) (.reply (.error (.transport cause)), last) box
  | told {front : List Event} {notes : List Note} {stand : Turn × Session} {left : Mailbox}
      (hfront : ∀ event ∈ front, ¬ event.IsInit)
      (hends : BootEnds session.spawned box front notes stand left)
      (hheard : HearsOnly session.spawned notes)
      (hshown : stand.2.transcript.marks = session.transcript.marks ++
        (session.rejection ++ front.flatMap Event.bootEntries).map .print)
      (hlast : stand.2.lastRun = session.rejected) :
      StartEnds session box (session.opening ++ notes) stand left

/-! ### Hearing the new worker -/

/-- The new worker of `start` boots and has said `front`, which is shown. -/
structure StillBoots (start : Session) (front : List Event) (session : Session) : Prop where
  live : session.live = some start.spawned
  pending : session.pending = some .init
  shown : session.transcript.marks = start.transcript.marks ++
    (start.rejection ++ front.flatMap Event.bootEntries).map .print
  lastRun : session.lastRun = start.rejected

variable {start session : Session} {front events : List Event} {event : Event}
  {notes : List Note} {box : Mailbox} {closed : Bool}

theorem StillBoots.showing (h : start.StillBoots front session) {taken : Session}
    (hlive : taken.live = session.live) (hpending : taken.pending = session.pending)
    (hshown : taken.transcript.marks =
      session.transcript.marks ++ event.bootEntries.map .print)
    (hlast : taken.lastRun = session.lastRun) : start.StillBoots (front ++ [event]) taken := by
  refine ⟨hlive.trans h.live, hpending.trans h.pending, ?_, hlast.trans h.lastRun⟩
  rw [hshown, h.shown, List.append_assoc, ← List.map_append, List.append_assoc,
    List.flatMap_append, List.flatMap_singleton]

theorem StillBoots.exists_take (h : start.StillBoots front session) (hother : ¬ event.IsInit) :
    ∃ taken, (session.take event).ClearsAtMost taken ∧
      start.StillBoots (front ++ [event]) taken := by
  cases event with
  | init success error => exact absurd trivial hother
  | run success output error =>
      have hidle : session.isRunPending = false := by
        rw [isRunPending, h.pending]
        rfl
      have hsame : session.take (.run success output error) = .done session :=
        congrArg Deed.done (takeRun_idle hidle success output error)
      rw [hsame]
      exact ⟨session, .nothing, h.showing rfl rfl (List.append_nil _).symm rfl⟩
  | stdout text => exact ⟨_, .nothing, h.showing rfl rfl rfl rfl⟩
  | stderr text => exact ⟨_, .nothing, h.showing rfl rfl rfl rfl⟩
  | input request prompt =>
      obtain ⟨transcript, hprint⟩ := session.exists_printSome .output prompt
      have hshown := session.marks_printSome .output prompt
      refine ⟨session.openRequest request prompt, .clears, ?_⟩
      rw [openRequest]
      rw [hprint] at hshown ⊢
      exact h.showing rfl rfl hshown rfl

theorem HearsOnly.heard {worker : Nat} {notes : List Note} (h : HearsOnly worker notes)
    (heard : Heard) : HearsOnly worker (notes ++ [.heard worker heard]) := by
  intro speaker other hmem
  rcases List.mem_append.mp hmem with hmem | hmem
  · exact h speaker other hmem
  · obtain ⟨rfl, -⟩ := Note.heard.inj (List.mem_singleton.mp hmem)
    rfl

theorem HearsOnly.did {worker : Nat} {notes : List Note} (h : HearsOnly worker notes)
    (done : Done) : HearsOnly worker (notes ++ [.did done]) := by
  intro speaker other hmem
  rcases List.mem_append.mp hmem with hmem | hmem
  · exact h speaker other hmem
  · cases List.mem_singleton.mp hmem

theorem awaitBoot_of_live {worker : Nat} (hlive : session.live = some worker)
    (hpending : session.pending = some .init) (next : AfterBoot) :
    session.awaitBoot next = .done (.listen (.boot next), session) := by
  rw [awaitBoot, if_pos hpending, listen, hlive]
  rfl

theorem abandon_of_idle (hidle : session.pending ≠ some .run)
    (reason : Pending → TransportError) : session.abandon reason =
      { session.closeRequest with live := none, phase := .uninitialized, pending := none } := by
  rw [abandon, if_neg hidle]

/-- The first word of the new worker about booting decides how the start ends. -/
theorem StillBoots.init_comes {success : Bool} {error : Option String} {more : List Note}
    (h : start.StillBoots front session)
    (hevents : box.events = front ++ .init success error :: events)
    (hfront : ∀ event ∈ front, ¬ event.IsInit) (hheard : HearsOnly start.spawned more) :
    (session.hear (.boot .reply) (.event (.init success error))).Comes (StartEnds start box)
      (start.opening ++ more) ⟨events, box.closed⟩ := by
  cases success with
  | true =>
      have hready : session.hear (.boot .reply) (.event (.init true error)) =
          ({ session with pending := none, phase := .ready } : Session).reply .done := by
        rw [hear, take, takeBoot, if_pos h.pending]
        rfl
      rw [hready]
      exact .reply (.told hfront (.ready hevents rfl h.live rfl) hheard h.shown h.lastRun)
  | false =>
      have hrefused : session.hear (.boot .reply) (.event (.init false error)) =
          .terminate start.spawned fun _ =>
            ({ session.closeRequest with
              bootError := some (error.getD unknownError)
              live := none
              phase := .uninitialized
              pending := none } : Session).fail (.boot (error.getD unknownError)) := by
        rw [hear, take, takeBoot, if_pos h.pending, letGo, h.live]
        rfl
      rw [hrefused]
      refine .terminate (.reply ?_)
      rw [List.append_assoc start.opening]
      exact .told hfront (.refused hevents rfl rfl) (hheard.did _) h.shown h.lastRun

/-- The session hears the new worker out up to its first word about booting. -/
theorem StillBoots.awaitBoot_comes {more : List Note} (h : start.StillBoots front session)
    (hbox : box = ⟨front ++ events, closed⟩) (hfront : ∀ event ∈ front, ¬ event.IsInit)
    (hheard : HearsOnly start.spawned more) :
    (session.awaitBoot .reply).Comes (StartEnds start box) (start.opening ++ more)
      ⟨events, closed⟩ := by
  induction events generalizing session front more with
  | nil =>
      rw [List.append_nil] at hbox
      rw [awaitBoot_of_live h.live h.pending]
      cases closed with
      | false =>
          refine .silence ?_ (.told hfront (.silence hbox h.pending) hheard h.shown h.lastRun)
          rw [h.live]
          rintro ⟨⟩
      | true =>
          have hidle : session.pending ≠ some .run := by
            rw [h.pending]
            rintro ⟨⟩
          refine .gone h.live (giveUp_comes h.live ?_)
          rw [List.append_assoc start.opening, List.append_assoc start.opening,
            abandon_of_idle hidle]
          exact .told hfront (.lost hbox rfl rfl) ((hheard.heard .gone).did _) h.shown h.lastRun
  | cons event events ih =>
      have hevents : box.events = front ++ event :: events := by rw [hbox]
      have hclosed : closed = box.closed := by rw [hbox]
      have hlater (hother : ¬ event.IsInit) : Move.Comes (StartEnds start box)
          (start.opening ++ (more ++ [.heard start.spawned (.event event)])) ⟨events, closed⟩
          (session.hear (.boot .reply) (.event event)) := by
        have hagain : box = ⟨front ++ [event] ++ events, closed⟩ := by
          rw [hbox, List.append_assoc, List.singleton_append]
        have hothers : ∀ event' ∈ front ++ [event], ¬ event'.IsInit :=
          List.forall_mem_append.mpr ⟨hfront, List.forall_mem_singleton.mpr hother⟩
        obtain ⟨taken, hclears, htaken⟩ := h.exists_take hother
        refine hclears.comes fun cleared hcleared => ?_
        rcases hcleared with rfl | ⟨answer, rfl⟩
        · rw [List.append_nil]
          exact ih htaken hagain hothers (hheard.heard _)
        · rw [List.append_assoc]
          exact ih htaken hagain hothers ((hheard.heard _).did _)
      rw [awaitBoot_of_live h.live h.pending]
      refine .event h.live ?_
      rw [List.append_assoc]
      cases event with
      | init success error =>
          rw [hclosed]
          exact h.init_comes hevents hfront (hheard.heard _)
      | _ => exact hlater id

/-! ### From the call on -/

/-- The session when it has let go of its worker and given up what was pending. -/
def fresh (session : Session) : Session :=
  { (session.abandon .terminated).printRejection session.pending with bootError := none }

/-- The session keeps of `start` what a new worker is spawned with, and the run that was pending has
been given up. -/
structure IsLeft (start session : Session) : Prop where
  spawned : session.spawned = start.spawned
  config : session.config = start.config
  bufferUrl : session.bufferUrl = start.bufferUrl
  shown : session.transcript.marks = start.transcript.marks ++ start.rejection.map .print
  lastRun : session.lastRun = start.rejected

theorem Settled.fresh_isLeft (h : session.Settled) : session.IsLeft session.fresh := by
  rw [fresh]
  cases hpending : session.pending with
  | none =>
      have hidle : session.isRunPending = false := by
        rw [isRunPending, hpending]
        rfl
      have hnot : session.pending ≠ some .run := by
        rw [hpending]
        rintro ⟨⟩
      rw [abandon_of_idle hnot]
      refine ⟨rfl, rfl, rfl, ?_, ?_⟩
      · rw [rejection, hidle]
        exact (List.append_nil _).symm
      · rw [rejected, hidle]
        rfl
  | some pending =>
      cases pending with
      | init => exact absurd hpending h.booted.2
      | run =>
          have hrunning : session.isRunPending = true := by
            rw [isRunPending, hpending]
            rfl
          rw [abandon, if_pos hpending]
          refine ⟨rfl, rfl, rfl, ?_, ?_⟩
          · rw [rejection, hrunning]
            rfl
          · rw [rejected, hrunning]
            rfl

theorem IsLeft.spawn_comes (h : start.IsLeft session) (box : Mailbox) :
    (session.spawn .reply).Comes (StartEnds start box)
      (start.parting ++ [.did (.wrote .empty (.ok ()))]) box := by
  have htelling (answer : Except TransportError Unit) :
      Note.did (.posted session.spawned (.boot session.config session.bufferUrl) answer) =
        .did (.posted start.spawned (.boot start.config start.bufferUrl) answer) := by
    rw [h.spawned, h.config, h.bufferUrl]
  apply Move.Comes.spawn
  rintro (cause | ⟨⟨⟩⟩)
  · rw [List.append_assoc]
    exact .reply (.unspawned cause)
  · refine .post fun answer => ?_
    show Move.Comes _ (_ ++ [Note.did (.posted session.spawned
      (.boot session.config session.bufferUrl) answer)]) _ _
    rw [htelling, List.append_assoc, List.append_assoc]
    rcases answer with cause | ⟨⟨⟩⟩
    · refine .discard (.reply ?_)
      rw [h.spawned, List.append_assoc]
      exact .untold cause
    · have hboots : start.StillBoots [] (({ session with spawned := session.spawned + 1 } :
          Session).booting session.spawned) := by
        refine ⟨congrArg some h.spawned, rfl, ?_, h.lastRun⟩
        rw [List.flatMap_nil, List.append_nil]
        exact h.shown
      have hcomes : Move.Comes (StartEnds start box) (start.opening ++ []) box _ :=
        hboots.awaitBoot_comes rfl (List.forall_mem_nil _) (by rintro _ _ ⟨⟩)
      rw [List.append_nil] at hcomes
      exact hcomes

theorem Settled.start_comes (h : start.Settled) (box : Mailbox) :
    (start.call .start).Comes (StartEnds start box) [] box := by
  have hfresh (next : Except BufferError Unit → Move)
      (herror : ∀ cause, next (.error cause) = start.fresh.fail (.buffer cause))
      (hok : next (.ok ()) = start.fresh.spawn .reply) :
      Move.Comes (StartEnds start box) start.parting box (.write .empty next) := by
    apply Move.Comes.write
    rintro (cause | ⟨⟨⟩⟩)
    · rw [herror]
      exact .reply (.uncleared cause)
    · rw [hok]
      exact h.fresh_isLeft.spawn_comes box
  show Move.Comes _ _ _ (start.letGo .terminated >>= _)
  rw [letGo]
  cases hlive : start.live with
  | none =>
      rw [parting, hlive] at hfresh
      exact hfresh _ (fun _ => rfl) rfl
  | some worker =>
      rw [parting, hlive] at hfresh
      exact .terminate (hfresh _ (fun _ => rfl) rfl)

/-! ### What is never heard -/

variable {config : Config} {url : String} {log : List Note} {stage stage' : Stage} {n : Nat}

theorem heard_notMem_notes (move : Move) (worker : Nat) (heard : Heard) :
    .heard worker heard ∉ Stage.notes move := by
  cases move with
  | done stand =>
      obtain ⟨turn, session⟩ := stand
      cases turn <;> simp [Stage.notes]
  | _ => simp [Stage.notes]

theorem Course.hears (h : Course config url log stage) (hgoes : stage.Goes notes stage')
    {worker : Nat} {heard : Heard} (hmem : .heard worker heard ∈ notes) : ¬ LetGo log worker := by
  obtain ⟨r, hsettles, htells⟩ := h.settles
  cases hgoes with
  | call session call =>
      rcases List.mem_cons.mp hmem with hnote | hnote
      · cases hnote
      · exact absurd hnote (heard_notMem_notes _ worker heard)
  | deed hgoes =>
      rcases List.mem_cons.mp hmem with hnote | hnote
      · cases hnote
      · exact absurd hnote (heard_notMem_notes _ worker heard)
  | hear hlive other =>
      rcases List.mem_cons.mp hmem with hnote | hnote
      · obtain ⟨rfl, -⟩ := Note.heard.inj hnote
        have hheld : r.held = some worker := hsettles.1 ▸ hlive
        exact fun hletGo => ((htells.letGo worker).mp hletGo).2 hheld
      · exact absurd hnote (heard_notMem_notes _ worker heard)
  | edit session history transcript => cases List.mem_singleton.mp hmem

theorem Course.hears_later (h : Course config url log stage) (hleads : stage.Leads notes stage')
    {worker : Nat} {heard : Heard} (hmem : .heard worker heard ∈ notes) : ¬ LetGo log worker := by
  induction hleads generalizing log with
  | here stage => cases hmem
  | step hgoes _ ih =>
      rcases List.mem_append.mp hmem with hnote | hnote
      · exact h.hears hgoes hnote
      · exact fun hletGo => ih (h.step hgoes) hnote (letGo_append.mpr (.inl hletGo))

theorem Course.start_hears_new (h : Course config url log (.resting session))
    (hleads : (Stage.ofMove (session.call .start)).Leads notes stage) {worker : Nat}
    {heard : Heard} (hmem : .heard worker heard ∈ notes) : session.spawned ≤ worker := by
  obtain ⟨r, ⟨rfl, -⟩, htells⟩ := h.settles
  have hcalled := h.step (.call session .start)
  rw [← Nat.not_lt]
  intro hold
  have hgone (hother : session.live ≠ some worker) : LetGo log worker :=
    (htells.letGo worker).mpr ⟨hold, hother⟩
  cases hlive : session.live with
  | none =>
      refine hcalled.hears_later hleads hmem (letGo_append.mpr (.inl (hgone ?_)))
      rw [hlive]
      rintro ⟨⟩
  | some old =>
      obtain ⟨next, hmove⟩ : ∃ next, session.call .start = .terminate old next := by
        rw [call, launch, letGo, hlive]
        exact ⟨_, rfl⟩
      rw [hmove] at hleads hcalled
      -- Nothing is heard before the old worker has been let go of.
      cases hleads with
      | here => cases hmem
      | step hgoes hleads =>
          cases hgoes with
          | deed hgoes =>
              cases hgoes with
              | terminate =>
                  have hstopped := hcalled.step (.deed .terminate)
                  rcases List.mem_append.mp hmem with hnote | hnote
                  · rcases List.mem_cons.mp hnote with hnote | hnote
                    · cases hnote
                    · exact heard_notMem_notes _ worker heard hnote
                  · refine hstopped.hears_later hleads hnote ?_
                    rw [letGo_append, letGo_append]
                    by_cases hsame : old = worker
                    · rw [hsame]
                      exact .inr (.inl List.mem_cons_self)
                    · refine .inl (.inl (hgone ?_))
                      rw [hlive]
                      exact fun hother => hsame (Option.some.inj hother)

/-- Starting is decided by the first reply of the new worker about booting. Whatever deeds succeed
and whatever the new worker says, the old worker is let go of before the buffer is cleared, and
that before a worker is spawned; a run that was pending has failed and is shown to have, once. Then
what the new worker says is shown in order, except that it has nothing to say of runs, up to the
first event that tells of booting: with that the session is ready, or it has let go of the worker
and fails for the reason that was given. It fails as well if the worker is no more before it has
told of booting, and listens on as long as the worker is silent. No worker that was spawned before
is heard again. -/
theorem start_decided_by_first_reply (h : Course config url log (.resting session)) :
    (∀ box, (session.call .start).Comes (StartEnds session box) [] box) ∧
    ∀ notes stage, (Stage.ofMove (session.call .start)).Leads notes stage →
      ∀ worker heard, .heard worker heard ∈ notes →
        session.spawned ≤ worker ∧ session.live ≠ some worker := by
  refine ⟨h.settled.start_comes, fun notes stage hleads worker heard hmem => ?_⟩
  have hnew := h.start_hears_new hleads hmem
  refine ⟨hnew, fun hlive => ?_⟩
  obtain ⟨r, ⟨rfl, -⟩, htells⟩ := h.settles
  exact absurd (htells.held worker hlive) (Nat.not_lt.mpr hnew)

/-- A session is started again while a run is pending, and the new worker does not boot. -/
theorem start_decided_by_first_reply_while_running : ∃ log session,
    Course .default "memory://0" log (.resting session) ∧ session.isRunPending = true ∧
    session.live = some 0 ∧
    (session.call .start).Comes
      (StartEnds session ⟨[.stdout "hello", .runOk none, .initFailed "no memory"], true⟩) []
      ⟨[.stdout "hello", .runOk none, .initFailed "no memory"], true⟩ := by
  have submitted := course_started.step (.call _ (.submit "f()"))
  have running := submitted.step (.deed (.post (.ok ())))
  exact ⟨_, _, running, rfl, rfl, (start_decided_by_first_reply running).1 _⟩

end Session
end ScriptConsole
