import ScriptConsole.Proofs.Session.Requests
import ScriptConsole.Proofs.System.Lane

/-!
The worker that a session holds, as the account of the session tells of it: the texts that it has
still to run, the requests for input that have not been heard, and which line it may take. While
the session has heard all its requests and has answered the last one, the answer lies in the
buffer until the worker takes it.
-/

namespace ScriptConsole

variable {σ : Type}

namespace Event

/-- The number of a request for input. -/
def request? : Event → Option UInt64
  | input request _ => some request
  | _ => none

/-- The event tells how a text ended. -/
def isReply : Event → Bool
  | run _ _ _ => true
  | _ => false

end Event

/-- The command is a text to run. -/
def Command.isText : Command → Bool
  | run _ => true
  | init _ => false

namespace Account

/-- The worker has neither asked for anything nor taken anything. -/
def Untouched (a : Account) (worker : Nat) : Prop :=
  a.asked = 0 ∧ ∀ sequence, (worker, sequence) ∉ a.taken

/-- The accounts tell the same of the workers and of the buffer. -/
structure Alike (a a' : Account) : Prop where
  url : a.url = a'.url
  spawned : a.spawned = a'.spawned
  unborn : a.unborn = a'.unborn
  live : a.live = a'.live
  runs : a.runs = a'.runs
  replies : a.replies = a'.replies
  asked : a.asked = a'.asked
  requests : a.requests = a'.requests
  request : a.request = a'.request
  lines : a.lines = a'.lines
  content : a.content = a'.content
  taken : a.taken = a'.taken

end Account

/-- The bridge of a worker agrees with the account. -/
structure Bridge.Knows (bridge : Bridge) (worker : Nat) (a : Account) : Prop where
  next : bridge.nextRequest = UInt64.ofNat a.asked
  seen : ∀ sequence, bridge.lastSequence = some sequence →
    ∃ number < a.lines, sequence = UInt64.ofNat number
  taken : ∀ sequence, (worker, sequence) ∈ a.taken →
    ∃ last, bridge.lastSequence = some last ∧ sequence ≤ last

/-- The lane of the worker that the session holds agrees with the account. -/
structure Lane.Serves (lane : Lane σ) (worker : Nat) (mode : Mode) (a : Account) : Prop where
  goes : lane.stopped = false
  texts : a.replies + lane.outbox.countP Event.isReply + mode.owes +
    lane.inbox.countP Command.isText ≤ a.runs
  unheard : ∃ count, a.asked = a.requests + count ∧
    lane.outbox.filterMap Event.request? = (List.range' a.requests count).map UInt64.ofNat
  opened : ∀ request, a.request = some request →
    0 < a.requests ∧ request = UInt64.ofNat (a.requests - 1)
  bridge : ∀ bridge, mode.bridge? = some bridge → bridge.Knows worker a
  asking : ∀ bridge request, mode = .asking bridge request →
    0 < a.asked ∧ request = UInt64.ofNat (a.asked - 1)
  booting : mode = .booting → a.Untouched worker ∧ ∀ setup, .init setup ∉ lane.inbox
  setups : ∀ setup, .init setup ∈ lane.inbox → a.Untouched worker ∧
    (∃ bridge, mode = .replied bridge) ∧
      ∃ inbox, lane.inbox = .init setup :: inbox ∧ ∀ other, .init other ∉ inbox
  /-- The answer to the last request lies in the buffer. -/
  answer : ∀ bridge request, mode = .asking bridge request → a.requests = a.asked →
    a.request = none → ∃ sequence text, a.content = some (.line request sequence text) ∧
      (a.lines ≤ UInt64.size → (Content.line request sequence text).isNewerThan bridge.lastSequence)

namespace Bridge

variable {bridge : Bridge} {worker : Nat} {a : Account} {request sequence : UInt64} {text : String}

/-- A line that is newer than the last one is newer than all that were taken. -/
theorem Knows.taken_lt (h : bridge.Knows worker a)
    (hnewer : (Content.line request sequence text).isNewerThan bridge.lastSequence = true) :
    ∀ earlier, (worker, earlier) ∈ a.taken → earlier < sequence := by
  intro earlier hmem
  obtain ⟨last, hlast, hle⟩ := h.taken earlier hmem
  simp only [Content.isNewerThan, hlast, decide_eq_true_eq] at hnewer
  exact UInt64.lt_of_le_of_lt hle hnewer

/-- The bridge has seen the line that was last written. -/
theorem Knows.seeing (h : bridge.Knows worker a) (hsound : a.Sound)
    (hcontent : a.content = some (.line request sequence text))
    (hnewer : (Content.line request sequence text).isNewerThan bridge.lastSequence = true) :
    Knows { bridge with lastSequence := some sequence } worker a := by
  refine { h with seen := ?seen, taken := ?taken }
  case seen =>
    rintro _ ⟨⟩
    obtain ⟨hlines, hsequence⟩ := hsound.content request sequence text hcontent
    exact ⟨a.lines - 1, by omega, hsequence⟩
  case taken =>
    intro earlier hmem
    exact ⟨sequence, rfl, UInt64.le_of_lt (h.taken_lt hnewer earlier hmem)⟩

end Bridge

namespace Lane

variable {lane lane' : Lane σ} {worker : Nat} {mode mode' : Mode} {a : Account}
  {bridge : Bridge} {request : UInt64}

theorem Serves.no_setup (h : lane.Serves worker mode a) (hmode : ∀ bridge, mode ≠ .replied bridge)
    (setup : Setup) : .init setup ∉ lane.inbox := by
  intro hmem
  obtain ⟨-, ⟨bridge, hreplied⟩, -⟩ := h.setups setup hmem
  exact hmode bridge hreplied

theorem Serves.alike (h : lane.Serves worker mode a) {a' : Account} (halike : a'.Alike a) :
    lane.Serves worker mode a' where
  goes := h.goes
  texts := by rw [halike.replies, halike.runs]; exact h.texts
  unheard := by rw [halike.asked, halike.requests]; exact h.unheard
  opened := by rw [halike.request, halike.requests]; exact h.opened
  bridge bridge hsome :=
    let hknows := h.bridge bridge hsome
    ⟨by rw [halike.asked]; exact hknows.next, by rw [halike.lines]; exact hknows.seen,
      by rw [halike.taken]; exact hknows.taken⟩
  asking := by rw [halike.asked]; exact h.asking
  booting := by rw [Account.Untouched, halike.asked, halike.taken]; exact h.booting
  setups := by rw [Account.Untouched, halike.asked, halike.taken]; exact h.setups
  answer := by
    rw [halike.asked, halike.requests, halike.request, halike.content, halike.lines]
    exact h.answer

theorem Serves.settle (h : lane.Serves worker mode a) (task : Task σ) :
    ({ lane with task } : Lane σ).Serves worker mode a :=
  { h with }

theorem Serves.fail (h : lane.Serves worker mode a) (task : Task σ) :
    ({ lane with task } : Lane σ).Serves worker (.replied none) a := by
  refine { h with
    texts := Nat.le_trans (by simp only [Mode.owes]; omega) h.texts
    bridge := by rintro _ ⟨⟩
    asking := by rintro _ _ ⟨⟩
    booting := by rintro ⟨⟩
    setups := fun setup hmem => ?_
    answer := by rintro _ _ ⟨⟩ }
  obtain ⟨huntouched, -, hinbox⟩ := h.setups setup hmem
  exact ⟨huntouched, ⟨none, rfl⟩, hinbox⟩

theorem Serves.unanswered (h : lane.Serves worker (.asking bridge request) a) (task : Task σ) :
    ({ lane with task } : Lane σ).Serves worker (.running (some bridge)) a :=
  { h with
    asking := by rintro _ _ ⟨⟩
    booting := by rintro ⟨⟩
    setups := fun setup hmem => absurd hmem (h.no_setup (by rintro _ ⟨⟩) setup)
    answer := by rintro _ _ ⟨⟩ }

theorem Serves.boot {left : Option Bridge} {setup : Setup} {inbox : List Command} {task : Task σ}
    (h : lane.Serves worker (.replied left) a) (hinbox : lane.inbox = .init setup :: inbox) :
    ({ lane with inbox, task } : Lane σ).Serves worker .booting a := by
  obtain ⟨huntouched, -, rest, hrest, hnone⟩ := h.setups setup (by simp [hinbox])
  obtain rfl : inbox = rest := by
    rw [hinbox] at hrest
    exact (List.cons.inj hrest).2
  have htexts := h.texts
  rw [hinbox, List.countP_cons_of_neg (by simp [Command.isText])] at htexts
  exact { h with
    texts := htexts
    bridge := by rintro _ ⟨⟩
    asking := by rintro _ _ ⟨⟩
    booting := fun _ => ⟨huntouched, hnone⟩
    setups := fun setup hmem => absurd hmem (hnone setup)
    answer := by rintro _ _ ⟨⟩ }

theorem Serves.run {left : Option Bridge} {code : String} {inbox : List Command} {task : Task σ}
    (h : lane.Serves worker (.replied left) a) (hinbox : lane.inbox = .run code :: inbox) :
    ({ lane with inbox, task } : Lane σ).Serves worker (.running left) a := by
  have hnone (setup : Setup) : .init setup ∉ inbox := by
    intro hmem
    obtain ⟨-, -, rest, hrest, -⟩ := h.setups setup (by simp [hinbox, hmem])
    rw [hinbox] at hrest
    cases hrest
  have htexts := h.texts
  rw [hinbox, List.countP_cons_of_pos (by rfl)] at htexts
  refine { h with
    texts := ?_
    asking := by rintro _ _ ⟨⟩
    booting := by rintro ⟨⟩
    setups := fun setup hmem => absurd hmem (hnone setup)
    answer := by rintro _ _ ⟨⟩ }
  simp only [Mode.owes] at htexts ⊢
  omega

theorem Serves.answered (h : lane.Serves worker (.asking bridge request) a) (hsound : a.Sound)
    (hlive : a.live = some worker) {sequence : UInt64} {text : String} {task : Task σ}
    (hcontent : a.content = some (.line request sequence text))
    (hnewer : (Content.line request sequence text).isNewerThan bridge.lastSequence = true) :
    a.Genuine (.ended worker request (.ok text)) ∧
      ({ lane with task } : Lane σ).Serves worker
        (.running (some { bridge with lastSequence := some sequence }))
        (a.ended worker (.ok text)) := by
  have hknows := h.bridge bridge rfl
  have hfresh : ∀ earlier, (worker, earlier) ∈ a.taken → earlier < sequence :=
    hknows.taken_lt hnewer
  obtain ⟨hlt, hunborn⟩ := hsound.live worker hlive
  obtain ⟨hasked, hrequest⟩ := h.asking bridge request rfl
  refine ⟨⟨hlt, by simp [hunborn], fun _ => ⟨hasked, hrequest, sequence, hcontent, hfresh⟩⟩, ?_⟩
  have hended : a.ended worker (.ok text) =
      { a with taken := (worker, sequence) :: a.taken } := by
    simp only [Account.ended, hcontent, hlive, if_true]
  rw [hended]
  refine { h with
    bridge := ?_
    asking := by rintro _ _ ⟨⟩
    booting := by rintro ⟨⟩
    setups := fun setup hmem => absurd hmem (h.no_setup (by rintro _ ⟨⟩) setup)
    answer := by rintro _ _ ⟨⟩ }
  rintro _ ⟨⟩
  have hseeing := hknows.seeing hsound hcontent hnewer
  refine { hseeing with taken := fun other hmem => ⟨sequence, rfl, ?_⟩ }
  rcases List.mem_cons.mp hmem with heq | hmem
  · cases heq
    exact UInt64.le_refl _
  · exact UInt64.le_of_lt (hfresh other hmem)

theorem Serves.passedOver (h : lane.Serves worker (.asking bridge request) a) (hsound : a.Sound)
    {other sequence : UInt64} {text : String} {task : Task σ}
    (hcontent : a.content = some (.line other sequence text)) (hother : other ≠ request)
    (hnewer : (Content.line other sequence text).isNewerThan bridge.lastSequence = true) :
    ({ lane with task } : Lane σ).Serves worker
      (.asking { bridge with lastSequence := some sequence } request) a := by
  refine { h with
    bridge := ?bridge
    asking := ?asking
    booting := by rintro ⟨⟩
    setups := fun setup hmem => absurd hmem (h.no_setup (by rintro _ ⟨⟩) setup)
    answer := ?answer }
  case bridge =>
    rintro _ ⟨⟩
    exact (h.bridge bridge rfl).seeing hsound hcontent hnewer
  case asking =>
    rintro _ _ ⟨⟩
    exact h.asking bridge request rfl
  case answer =>
    rintro _ _ ⟨⟩ hheard hrequest
    obtain ⟨newest, line, hline, -⟩ := h.answer bridge request rfl hheard hrequest
    rw [hcontent] at hline
    cases hline
    exact absurd rfl hother

theorem Serves.booted {left : Option Bridge} {success : Bool} {error : Option String}
    {task : Task σ} (h : lane.Serves worker .booting a)
    (hfresh : ∀ fresh, left = some fresh → fresh.nextRequest = 0 ∧ fresh.lastSequence = none) :
    ({ lane with outbox := lane.outbox ++ [.init success error], task } : Lane σ).Serves worker
      (.replied left) a := by
  obtain ⟨⟨hasked, htaken⟩, hnone⟩ := h.booting rfl
  refine { h with
    texts := by simpa [Event.isReply, Mode.owes] using h.texts
    unheard := by
      simpa [List.filterMap_append, List.filterMap_cons, Event.request?] using h.unheard
    bridge := fun fresh hsome => ?_
    asking := by rintro _ _ ⟨⟩
    booting := by rintro ⟨⟩
    setups := fun setup hmem => absurd hmem (hnone setup)
    answer := by rintro _ _ ⟨⟩ }
  obtain ⟨hnext, hlast⟩ := hfresh fresh hsome
  refine ⟨by rw [hnext, hasked]; rfl, by simp [hlast], fun sequence hmem => ?_⟩
  exact absurd hmem (htaken sequence)

theorem Serves.ran {left kept : Option Bridge} {success : Bool} {output error : Option String}
    {task : Task σ} (h : lane.Serves worker (.running left) a) (hkept : kept = none ∨ kept = left) :
    ({ lane with outbox := lane.outbox ++ [.run success output error], task } : Lane σ).Serves
      worker (.replied kept) a := by
  refine { h with
    texts := by simpa [Event.isReply, Mode.owes, Nat.add_assoc, Nat.add_comm 1] using h.texts
    unheard := by
      simpa [List.filterMap_append, List.filterMap_cons, Event.request?] using h.unheard
    bridge := fun bridge hsome => ?_
    asking := by rintro _ _ ⟨⟩
    booting := by rintro ⟨⟩
    setups := fun setup hmem => absurd hmem (h.no_setup (by rintro _ ⟨⟩) setup)
    answer := by rintro _ _ ⟨⟩ }
  rcases hkept with rfl | rfl
  · cases hsome
  · exact h.bridge bridge hsome

theorem Serves.asked {prompt : Option String} {task : Task σ}
    (h : lane.Serves worker (.running (some bridge)) a) (hsound : a.Sound)
    (hlive : a.live = some worker) :
    a.Genuine (.said worker (.input bridge.nextRequest prompt)) ∧
      ({ lane with outbox := lane.outbox ++ [.input bridge.nextRequest prompt], task } :
        Lane σ).Serves worker (.asking bridge.advance bridge.nextRequest)
        (a.said worker (.input bridge.nextRequest prompt)) := by
  have hknows := h.bridge bridge rfl
  obtain ⟨hspawned, hunborn⟩ := hsound.live worker hlive
  refine ⟨⟨hspawned, by simp [hunborn], fun _ => hknows.next⟩, ?_⟩
  have hsaid : a.said worker (.input bridge.nextRequest prompt) =
      { a with asked := a.asked + 1 } := by
    simp only [Account.said, hlive, if_true]
  rw [hsaid]
  obtain ⟨count, hcount, hunheard⟩ := h.unheard
  refine { h with
    texts := ?texts
    unheard := ⟨count + 1, by simp only; omega, ?unheard⟩
    bridge := ?bridge
    asking := ?asking
    booting := by rintro ⟨⟩
    setups := fun setup hmem => absurd hmem (h.no_setup (by rintro _ ⟨⟩) setup)
    answer := ?answer }
  case texts => simpa [Event.isReply, Mode.owes] using h.texts
  case unheard =>
    simp only [List.filterMap_append, hunheard, List.range'_concat, List.map_append, List.map_cons,
      List.map_nil, Nat.one_mul, List.append_cancel_left_eq]
    rw [← hcount, ← hknows.next]
    rfl
  case bridge =>
    rintro _ ⟨⟩
    refine { hknows with next := ?_ }
    simp only [Bridge.advance, hknows.next, UInt64.ofNat_add, UInt64.ofNat_one]
  case asking =>
    rintro _ _ ⟨⟩
    exact ⟨Nat.succ_pos _, hknows.next⟩
  case answer =>
    rintro _ _ - hheard
    simp only at hheard
    omega

theorem Serves.said {event : Event} {task : Task σ} (h : lane.Serves worker mode a)
    (hreply : event.isReply = false) (hrequest : event.request? = none) :
    ({ lane with outbox := lane.outbox ++ [event], task } : Lane σ).Serves worker mode a :=
  { h with
    texts := by simpa [hreply] using h.texts
    unheard := by simpa [List.filterMap_append, hrequest] using h.unheard }

/-- Whatever the worker that the session holds does, it goes on to agree with the account. -/
theorem Serves.goes_on {source : BufferSource} {url : String} {content : Except BufferError Content}
    {storage storage' : Storage} {notes : List Note} (h : lane.Serves worker mode a)
    (hsound : a.Sound) (hlive : a.live = some worker)
    (hcontent : ∀ held, content = .ok held → a.content = some held)
    (hgoes : lane.Goes source url content storage worker mode notes mode' lane' storage') :
    a.Along Account.Genuine notes ∧
      lane'.Serves worker mode' (notes.foldl Account.note a) := by
  cases hgoes with
  | stopping hstopped => simp [h.goes] at hstopped
  | fail => exact ⟨trivial, h.fail .ended⟩
  | settle => exact ⟨trivial, h.settle _⟩
  | boot hinbox => exact ⟨trivial, h.boot hinbox⟩
  | run hinbox => exact ⟨trivial, h.run hinbox⟩
  | opened hsource hopen => exact ⟨trivial, { h with }⟩
  | saidInit hopen hfresh => exact ⟨⟨trivial, trivial⟩, h.booted hfresh⟩
  | saidOut hopen => exact ⟨⟨trivial, trivial⟩, h.said rfl rfl⟩
  | saidErr hopen => exact ⟨⟨trivial, trivial⟩, h.said rfl rfl⟩
  | asked hopen =>
      obtain ⟨hgenuine, hserves⟩ := h.asked hsound hlive
      exact ⟨⟨hgenuine, trivial⟩, hserves⟩
  | ran hopen hleft => exact ⟨⟨trivial, trivial⟩, h.ran hleft⟩
  | answered hread hnewer =>
      obtain ⟨hgenuine, hserves⟩ := h.answered hsound hlive (hcontent _ hread) hnewer
      exact ⟨⟨hgenuine, trivial⟩, hserves⟩
  | unanswered => exact ⟨⟨trivial, trivial⟩, h.unanswered _⟩
  | passedOver hread hother hnewer =>
      exact ⟨trivial, h.passedOver hsound (hcontent _ hread) hother hnewer⟩

/-! ### What the session does -/

theorem Serves.heard {event : Event} {outbox : List Event} (h : lane.Serves worker mode a)
    (hsound : a.Sound) (houtbox : lane.outbox = event :: outbox) :
    a.Expects (.event event) ∧ a.Genuine (.heard worker (.event event)) ∧
      ({ lane with outbox } : Lane σ).Serves worker mode (a.heard (.event event)) := by
  have htexts := h.texts
  obtain ⟨count, hcount, hunheard⟩ := h.unheard
  rw [houtbox] at htexts hunheard
  have hplain (hreply : event.isReply = false) (hrequest : event.request? = none) :
      ({ lane with outbox } : Lane σ).Serves worker mode a := by
    rw [List.countP_cons_of_neg (by simp [hreply])] at htexts
    rw [List.filterMap_cons_none hrequest] at hunheard
    exact { h with texts := htexts, unheard := ⟨count, hcount, hunheard⟩ }
  cases event with
  | stdout text => exact ⟨trivial, trivial, hplain rfl rfl⟩
  | stderr text => exact ⟨trivial, trivial, hplain rfl rfl⟩
  | init success error =>
      exact ⟨trivial, trivial, (hplain rfl rfl).alike ⟨rfl, rfl, rfl, rfl, rfl, rfl, rfl, rfl, rfl,
        rfl, rfl, rfl⟩⟩
  | run success output error =>
      rw [List.countP_cons_of_pos (by rfl)] at htexts
      rw [List.filterMap_cons_none (by rfl)] at hunheard
      refine ⟨?expects, trivial, { h with
        texts := ?texts
        unheard := ⟨count, hcount, hunheard⟩
        opened := by rintro _ ⟨⟩
        bridge := fun bridge hsome => { h.bridge bridge hsome with }
        answer := ?answer }⟩
      case expects =>
        show a.replies < a.runs
        omega
      case texts =>
        simp only [Account.heard]
        omega
      case answer =>
        intro bridge request hmode
        have hruns := hsound.runs_le
        simp only [hmode, Mode.owes] at htexts
        omega
  | input request prompt =>
      rw [List.countP_cons_of_neg (by simp [Event.isReply])] at htexts
      rw [List.filterMap_cons_some (by rfl)] at hunheard
      cases count with
      | zero => cases hunheard
      | succ count =>
          simp only [List.range'_succ, List.map_cons, List.cons.injEq] at hunheard
          obtain ⟨hrequest, hunheard⟩ := hunheard
          refine ⟨trivial, ⟨by omega, hrequest⟩, { h with
            texts := htexts
            unheard := ⟨count, by simp only [Account.heard]; omega, hunheard⟩
            opened := ?_
            bridge := fun bridge hsome => { h.bridge bridge hsome with }
            answer := by intros; contradiction }⟩
          rintro _ ⟨⟩
          exact ⟨Nat.succ_pos _, hrequest⟩

theorem isNewerThan_of_lt {number lines : Nat} (hnumber : number < lines)
    (hlines : lines < UInt64.size)
    (text : String) : (Content.line request (UInt64.ofNat lines) text).isNewerThan
      (some (UInt64.ofNat number)) = true := by
  simp only [Content.isNewerThan, decide_eq_true_eq, UInt64.lt_iff_toNat_lt, UInt64.toNat_ofNat']
  rw [UInt64.size] at hlines
  omega

theorem Serves.wrote {content : Content} {answer : Except BufferError Unit}
    (h : lane.Serves worker mode a) (hlive : a.live = some worker)
    (hmay : a.May (.wrote content answer)) : lane.Serves worker mode (a.wrote content) := by
  cases content with
  | closed => simp [Account.May, hlive] at hmay
  | empty =>
      obtain ⟨-, hnone | hrequest⟩ := hmay
      · simp [hlive] at hnone
      · exact { h with
          bridge := fun bridge hsome => { h.bridge bridge hsome with }
          answer := fun _ _ _ _ hnone => absurd hnone hrequest }
  | line request sequence text =>
      obtain ⟨hrequest, -, rfl⟩ := hmay
      refine { h with opened := by rintro _ ⟨⟩, bridge := ?bridge, answer := ?answer }
      case bridge =>
        intro bridge hsome
        have hknows := h.bridge bridge hsome
        refine { hknows with seen := fun last hlast => ?_ }
        obtain ⟨number, hnumber, hsame⟩ := hknows.seen last hlast
        exact ⟨number, Nat.lt_succ_of_lt hnumber, hsame⟩
      case answer =>
        rintro bridge asked rfl hheard -
        obtain ⟨-, hopened⟩ := h.opened request hrequest
        obtain ⟨-, hasked⟩ := h.asking bridge asked rfl
        obtain rfl : asked = request := by
          rw [hasked, hopened]
          exact congrArg (fun n => UInt64.ofNat (n - 1)) hheard.symm
        refine ⟨UInt64.ofNat a.lines, text, rfl, fun hlines => ?_⟩
        cases hlast : bridge.lastSequence with
        | none => rfl
        | some last =>
            obtain ⟨number, hnumber, rfl⟩ := (h.bridge bridge rfl).seen last hlast
            exact isNewerThan_of_lt hnumber hlines text

theorem Serves.told (h : lane.Serves worker mode a) (code : String) :
    ({ lane with inbox := lane.inbox ++ [.run code] } : Lane σ).Serves worker mode
      (a.posted worker (.run code)) := by
  refine { h with
    texts := ?texts
    bridge := fun bridge hsome => { h.bridge bridge hsome with }
    booting := ?booting
    setups := ?setups }
  case texts =>
    have htexts := h.texts
    simp only [List.countP_append, Account.posted,
      List.countP_cons_of_pos (show Command.isText (.run code) = true from rfl),
      List.countP_nil]
    omega
  case booting =>
    intro hmode
    obtain ⟨huntouched, hnone⟩ := h.booting hmode
    exact ⟨huntouched, fun setup hmem => hnone setup (by simpa using hmem)⟩
  case setups =>
    intro setup hmem
    obtain ⟨huntouched, hreplied, inbox, hinbox, hnone⟩ := h.setups setup (by simpa using hmem)
    refine ⟨huntouched, hreplied, inbox ++ [.run code], by simp [hinbox], fun other hmem => ?_⟩
    exact hnone other (by simpa using hmem)

/-- A worker that has not been told anything. -/
structure Unborn (lane : Lane σ) : Prop where
  goes : lane.stopped = false
  inbox : lane.inbox = []
  outbox : lane.outbox = []

theorem Unborn.told (h : lane.Unborn) (hsound : a.Sound) (hlive : a.live = none)
    (hunborn : a.unborn = some worker) (setup : Setup) :
    ({ lane with inbox := lane.inbox ++ [.init setup] } : Lane σ).Serves worker (.replied none)
      (a.posted worker (.init setup)) := by
  obtain ⟨hruns, hreplies, hrequests, hrequest, -, -, hasked⟩ := hsound.dead hlive
  have huntouched : (a.posted worker (.init setup)).Untouched worker :=
    ⟨hasked, fun sequence hmem => (hsound.taken worker sequence hmem).2 hunborn⟩
  refine ⟨h.goes, ?_, ⟨0, by simp only [Account.posted]; omega, by simp [h.outbox]⟩, ?_,
    (by rintro _ ⟨⟩),
    (by rintro _ _ ⟨⟩), (by rintro ⟨⟩), fun other hmem => ?_, (by rintro _ _ ⟨⟩)⟩
  · simp [h.inbox, h.outbox, Account.posted, hruns, hreplies, Mode.owes, Command.isText]
  · simp [Account.posted, hrequest]
  · obtain rfl : other = setup := by simpa [h.inbox] using hmem
    exact ⟨huntouched, ⟨none, rfl⟩, [], by simp [h.inbox], (by rintro _ ⟨⟩)⟩

end Lane
end ScriptConsole
