import ScriptConsole.Proofs.Session.Log

/-!
What every account of a session satisfies, what a session may do given its account, and what the
account tells of the fields of the session. A move keeps to an account if each of its deeds is one
that the session may do by then, however the deeds before it were answered, and if the session
agrees with the account when it rests or listens again.
-/

namespace ScriptConsole

namespace Account

/-- What holds of the account of any log. -/
structure Sound (a : Account) : Prop where
  replies_le : a.replies ≤ a.runs
  runs_le : a.runs ≤ a.replies + 1
  runs_le_submits : a.runs ≤ a.submits
  booting : a.booting = true → a.runs = 0
  live : ∀ worker, a.live = some worker → worker < a.spawned ∧ a.unborn = none
  dead : a.live = none → a.runs = 0 ∧ a.replies = 0 ∧ a.requests = 0 ∧ a.request = none ∧
    a.booting = false ∧ a.lost = false ∧ a.asked = 0
  unborn : ∀ worker, a.unborn = some worker → worker + 1 = a.spawned ∧ a.content = some .empty
  last : a.last = none ↔ a.replies < a.runs ∨ a.submits = 0
  tally : a.outcomes + (if a.shown = none ∧ a.last ≠ none then 1 else 0) +
    (if a.last = none ∧ a.submits ≠ 0 then 1 else 0) = a.submits
  content : ∀ request sequence text, a.content = some (.line request sequence text) →
    0 < a.lines ∧ sequence = UInt64.ofNat (a.lines - 1)
  taken : ∀ worker sequence, (worker, sequence) ∈ a.taken →
    worker < a.spawned ∧ a.unborn ≠ some worker

/-- What a session may do that has this account. -/
def May (a : Account) : Done → Prop
  | .wrote (.line request sequence _) _ =>
      a.request = some request ∧ a.meant = some request ∧ sequence = UInt64.ofNat a.lines
  | .wrote .empty _ => a.unborn = none ∧ (a.live = none ∨ a.request ≠ none)
  | .wrote .closed _ => a.unborn = none ∧ a.live = none
  | .spawned _ => a.live = none ∧ a.unborn = none ∧ a.content = some .empty
  | .posted worker (.init setup) _ =>
      a.live = none ∧ a.unborn = some worker ∧ .init setup = Command.boot a.config a.url
  | .posted worker (.run _) _ =>
      a.live = some worker ∧ a.booting = false ∧ a.runs = a.replies ∧ a.shown = a.last
  | .terminated worker => a.live = some worker ∧ a.shown = a.last
  | .discarded worker => a.live = none ∧ a.unborn = some worker

/-- A worker replies only to what it was told. -/
def Expects (a : Account) : Heard → Prop
  | .event (.run _ _ _) => a.replies < a.runs
  | _ => True

theorem sound_new (config : Config) (url : String) : (new config url).Sound where
  replies_le := Nat.le_refl _
  runs_le := Nat.zero_le _
  runs_le_submits := Nat.le_refl _
  booting := by rintro ⟨⟩
  live := by rintro _ ⟨⟩
  dead _ := ⟨rfl, rfl, rfl, rfl, rfl, rfl, rfl⟩
  unborn := by rintro _ ⟨⟩
  last := ⟨fun _ => .inr rfl, fun _ => rfl⟩
  tally := rfl
  content := by rintro _ _ _ ⟨⟩
  taken := by rintro _ _ ⟨⟩

namespace Sound

variable {a : Account}

theorem called (h : a.Sound) (call : Session.Call) : (a.note (.called call)).Sound :=
  { h with }

theorem replied (h : a.Sound) (result : Except SessionError Reply) :
    (a.note (.replied result)).Sound :=
  { h with }

theorem showed (h : a.Sound) {session : Session} (hlast : session.lastRun = a.last) :
    (a.note (.showed session)).Sound := by
  refine { h with tally := ?_ }
  have := h.tally
  simp only [note, hlast, ne_eq, and_not_self, if_false]
  omega

theorem release (h : a.Sound) (hshown : a.shown = a.last) : a.release.Sound where
  replies_le := Nat.le_refl _
  runs_le := Nat.zero_le _
  runs_le_submits := Nat.zero_le _
  booting := by rintro ⟨⟩
  live := by rintro _ ⟨⟩
  dead _ := ⟨rfl, rfl, rfl, rfl, rfl, rfl, rfl⟩
  unborn := h.unborn
  last := by
    have hlast := h.last
    have hruns := h.runs_le_submits
    simp only [Account.release]
    split
    · simp
      omega
    · rename_i hlt
      simpa [hlt] using hlast
  tally := by
    have htally := h.tally
    have hlast := h.last
    have hruns := h.runs_le_submits
    simp only [Account.release]
    split
    · rename_i hlt
      have hnone : a.last = none := hlast.mpr (.inl hlt)
      have hsome : a.submits ≠ 0 := by omega
      simp [hshown, hnone, hsome] at htally ⊢
      omega
    · exact htally
  content := h.content
  taken := h.taken

theorem wrote (h : a.Sound) (content : Content) (hunborn : a.unborn = none)
    (hsequence : ∀ request sequence text, content = .line request sequence text →
      sequence = UInt64.ofNat a.lines) : (a.wrote content).Sound := by
  have hborn : ∀ worker, a.unborn = some worker → worker + 1 = a.spawned ∧
      some content = some .empty := by
    simp [hunborn]
  cases content with
  | empty => exact { h with unborn := hborn, content := by rintro _ _ _ ⟨⟩ }
  | closed => exact { h with unborn := hborn, content := by rintro _ _ _ ⟨⟩ }
  | line request sequence text =>
      refine { h with dead := fun hlive => ?dead, unborn := hborn, content := ?content }
      case dead =>
        obtain ⟨hruns, hreplies, hrequests, -, hrest⟩ := h.dead hlive
        exact ⟨hruns, hreplies, hrequests, rfl, hrest⟩
      case content =>
        rintro _ _ _ hcontent
        cases hcontent
        exact ⟨Nat.succ_pos _, hsequence request sequence text rfl⟩

theorem spawned (h : a.Sound) (hlive : a.live = none) (hcontent : a.content = some .empty) :
    (a.did (.spawned (.ok ()))).Sound := by
  refine { h with live := ?live, unborn := ?unborn, taken := ?taken }
  case live =>
    intro worker hworker
    simp [Account.did, hlive] at hworker
  case unborn =>
    intro worker hworker
    obtain rfl : a.spawned = worker := by simpa [Account.did] using hworker
    exact ⟨rfl, hcontent⟩
  case taken =>
    intro worker sequence hmem
    have hlt := (h.taken worker sequence hmem).1
    exact ⟨Nat.lt_succ_of_lt hlt, fun hsame => absurd (Option.some.inj hsame) (Nat.ne_of_gt hlt)⟩

theorem booted (h : a.Sound) {worker : Nat} (setup : Setup) (hlive : a.live = none)
    (hunborn : a.unborn = some worker) : (a.posted worker (.init setup)).Sound := by
  refine { h with
    booting := ?booting
    live := ?live
    dead := ?dead
    unborn := ?unborn
    taken := ?taken }
  case booting => exact fun _ => (h.dead hlive).1
  case live =>
    intro other hother
    obtain rfl : worker = other := by simpa [posted] using hother
    have := (h.unborn worker hunborn).1
    exact ⟨by simp only [posted]; omega, rfl⟩
  case dead => rintro ⟨⟩
  case unborn => rintro _ ⟨⟩
  case taken => exact fun worker sequence hmem => ⟨(h.taken worker sequence hmem).1, (by rintro ⟨⟩)⟩

theorem ran (h : a.Sound) {worker : Nat} (code : String) (hlive : a.live = some worker)
    (hbooting : a.booting = false) (hruns : a.runs = a.replies) (hshown : a.shown = a.last) :
    (a.posted worker (.run code)).Sound := by
  refine { h with
    replies_le := by simp only [posted]; omega
    runs_le := by simp only [posted]; omega
    runs_le_submits := Nat.succ_le_succ h.runs_le_submits
    booting := by simp [posted, hbooting]
    dead := by simp [posted, hlive]
    last := by simp only [posted, true_iff]; omega
    tally := ?_ }
  have htally := h.tally
  have hlast := h.last
  simp only [posted, hshown, ne_eq, not_true, and_false, if_false]
  cases hcase : a.last with
  | none =>
      have : a.submits = 0 := by simp only [hcase, true_iff] at hlast; omega
      simpa [hcase, hshown, this] using htally
  | some outcome =>
      simp only [hcase, hshown, ne_eq, reduceCtorEq, false_and, if_false] at htally
      simp
      omega

theorem did (h : a.Sound) {done : Done} (hmay : a.May done) : (a.did done).Sound := by
  cases done with
  | wrote content answer =>
      cases answer with
      | error cause => exact h
      | ok _ =>
          cases content with
          | empty => exact h.wrote .empty hmay.1 (by rintro _ _ _ ⟨⟩)
          | closed => exact h.wrote .closed hmay.1 (by rintro _ _ _ ⟨⟩)
          | line request sequence text =>
              refine h.wrote (.line request sequence text) ?_ ?_
              · cases hlive : a.live with
                | none =>
                    have hclosed := (h.dead hlive).2.2.2.1
                    simp [hmay.1] at hclosed
                | some worker => exact (h.live worker hlive).2
              · rintro _ _ _ hline
                cases hline
                exact hmay.2.2
  | spawned answer =>
      cases answer with
      | error cause => exact h
      | ok _ => exact h.spawned hmay.1 hmay.2.2
  | posted worker command answer =>
      cases answer with
      | error cause => exact h
      | ok _ =>
          cases command with
          | init setup => exact h.booted setup hmay.1 hmay.2.1
          | run code => exact h.ran code hmay.1 hmay.2.1 hmay.2.2.1 hmay.2.2.2
  | terminated worker => exact h.release hmay.2
  | discarded worker =>
      exact { h with
        live := by simp [Account.did, hmay.1]
        unborn := by rintro _ ⟨⟩
        taken := fun worker sequence hmem =>
          ⟨(h.taken worker sequence hmem).1, (by rintro ⟨⟩)⟩ }

theorem heard (h : a.Sound) {worker : Nat} {heard : Heard} (hlive : a.live = some worker)
    (hshown : a.shown = a.last) (hexpects : a.Expects heard) : (a.heard heard).Sound := by
  have hdead {p : Prop} (hnone : a.live = none) : p := by
    cases hlive.symm.trans hnone
  cases heard with
  | quiet => exact h
  | gone => exact { h with dead := hdead }
  | event event =>
      cases event with
      | stdout text => exact h
      | stderr text => exact h
      | init success error =>
          exact { h with booting := by rintro ⟨⟩, dead := hdead }
      | input request prompt => exact { h with dead := hdead }
      | run success output error =>
          have hlt : a.replies < a.runs := hexpects
          have hsubmits := h.runs_le_submits
          have hle := h.runs_le
          refine { h with
            replies_le := hlt
            runs_le := by simp only [Account.heard]; omega
            dead := hdead
            last := by simp [Account.heard]; omega
            tally := ?_ }
          have htally := h.tally
          have hnone : a.last = none := h.last.mpr (.inl hlt)
          have hsome : a.submits ≠ 0 := by omega
          simp [Account.heard, hshown, hnone, hsome] at htally ⊢
          omega

theorem said (h : a.Sound) (worker : Nat) (event : Event) : (a.said worker event).Sound := by
  cases event with
  | input request prompt =>
      simp only [Account.said]
      split
      · rename_i hlive
        exact { h with dead := by simp [hlive] }
      · exact h
  | _ => exact h

theorem ended (h : a.Sound) (worker : Nat) (result : Except HostError String) :
    (a.ended worker result).Sound := by
  simp only [Account.ended]
  split
  · split
    · rename_i hlive
      obtain ⟨hlt, hborn⟩ := h.live worker hlive
      refine { h with taken := fun other sequence hmem => ?_ }
      rcases List.mem_cons.mp hmem with heq | hmem
      · cases heq
        exact ⟨hlt, by simp [hborn]⟩
      · exact h.taken other sequence hmem
    · exact h
  · exact h

end Sound

/-- The account when the session has let go of the worker that it holds, if it holds one. -/
def letGo (a : Account) : Account :=
  match a.live with
  | none => a
  | some worker => a.did (.terminated worker)

end Account

namespace Session

/-- What the account tells of the fields of a session. -/
structure Agrees (session : Session) (a : Account) : Prop where
  config : session.config = a.config
  url : session.bufferUrl = a.url
  phase : session.phase =
    if a.live = none then .uninitialized else if a.booting then .initializing else .ready
  live : session.live = a.live
  spawned : session.spawned = a.spawned
  pending : session.pending =
    if a.booting then some .init else if a.replies < a.runs then some .run else none
  last : session.lastRun = a.last
  request : session.request = a.request
  sequence : session.sequence = UInt64.ofNat a.lines
  awaiting : session.isAwaitingInput = true → a.request ≠ none

/-- What a session that listens may do next suits its account. -/
def Heeds (a : Account) : Listening → Prop
  | .boot _ => a.booting = true
  | .wait _ | .poll .reply => a.booting = false
  | .poll (.line request text) =>
      a.booting = false ∧ a.call = some (.line text) ∧ request = a.meant
  | .poll (.deliver request text) =>
      a.booting = false ∧ a.call = some (.deliver text) ∧ request = a.meant

/-- A reply that ends a call for which a line was written says that it was. -/
def Confirms (a : Account) (result : Except SessionError Reply) : Prop :=
  ∀ text, a.delivered = some text →
    ∃ call reply, a.call = some call ∧ result = .ok reply ∧ call.Supplies reply text

/-- The session rests or listens, and agrees with the account. -/
def Stands (a : Account) : Turn × Session → Prop
  | (.reply result, session) =>
      session.Agrees a ∧ a.unborn = none ∧ a.booting = false ∧ a.lost = false ∧ Confirms a result
  | (.listen listening, session) =>
      session.Agrees a ∧ a.unborn = none ∧ a.lost = false ∧ a.live ≠ none ∧
        a.delivered = none ∧ Heeds a listening

end Session

/-- The move keeps to the account, however its deeds are answered. -/
def Move.Keeps : Move → Account → Prop
  | .done stand, a => Session.Stands a stand
  | .write content next, a => a.delivered = none ∧ ∀ answer,
      a.May (.wrote content answer) ∧ Keeps (next answer) (a.did (.wrote content answer))
  | .spawn next, a => a.delivered = none ∧ ∀ answer,
      a.May (.spawned answer) ∧ Keeps (next answer) (a.did (.spawned answer))
  | .post worker command next, a => a.delivered = none ∧ ∀ answer,
      a.May (.posted worker command answer) ∧
        Keeps (next answer) (a.did (.posted worker command answer))
  | .terminate worker next, a => a.delivered = none ∧
      a.May (.terminated worker) ∧ Keeps (next ()) (a.did (.terminated worker))
  | .discard worker next, a => a.delivered = none ∧
      a.May (.discarded worker) ∧ Keeps (next ()) (a.did (.discarded worker))

namespace Move

theorem Keeps.did {move next : Move} {a : Account} {done : Done} (h : move.Keeps a)
    (hgoes : move.Goes done next) :
    a.delivered = none ∧ a.May done ∧ next.Keeps (a.did done) := by
  cases hgoes with
  | write answer => exact ⟨h.1, h.2 answer⟩
  | spawn answer => exact ⟨h.1, h.2 answer⟩
  | post answer => exact ⟨h.1, h.2 answer⟩
  | terminate => exact h
  | discard => exact h

end Move

namespace Account

/-- The note may be the next one in a log with this account. -/
def Permits (a : Account) : Note → Prop
  | .called _ => a.delivered = none
  | .did done => a.delivered = none ∧ a.May done
  | .heard worker heard =>
      a.delivered = none ∧ a.live = some worker ∧ a.shown = a.last ∧ a.Expects heard
  | .replied result => Session.Confirms a result
  | .showed session => a.delivered = none ∧ session.lastRun = a.last
  | .said _ _ | .ended _ _ _ => a.delivered = none

/-- The notes come one after the other, each as the account before it says that it may. -/
def Along (rule : Account → Note → Prop) (a : Account) : List Note → Prop
  | [] => True
  | note :: more => rule a note ∧ (a.note note).Along rule more

variable {a : Account} {rule : Account → Note → Prop}

theorem along_append {log more : List Note} :
    a.Along rule (log ++ more) ↔
      a.Along rule log ∧ (log.foldl Account.note a).Along rule more := by
  induction log generalizing a with
  | nil => simp [Along]
  | cons note log ih => simp only [List.cons_append, Along, ih, List.foldl_cons, and_assoc]

/-- The notes may be the next ones. -/
abbrev Allows (a : Account) (log : List Note) : Prop :=
  a.Along Permits log

theorem Sound.note (h : a.Sound) {note : Note} (hpermits : a.Permits note) :
    (a.note note).Sound := by
  cases note with
  | called call => exact h.called call
  | did done => exact h.did hpermits.2
  | heard worker heard => exact h.heard hpermits.2.1 hpermits.2.2.1 hpermits.2.2.2
  | replied result => exact h.replied result
  | showed session => exact h.showed hpermits.2
  | said worker event => exact h.said worker event
  | ended worker request result => exact h.ended worker result

theorem Sound.foldl (h : a.Sound) {log : List Note} (hallows : a.Allows log) :
    (log.foldl Account.note a).Sound := by
  induction log generalizing a with
  | nil => exact h
  | cons note log ih => exact ih (h.note hallows.1) hallows.2

end Account

/-- A session with this configuration and this buffer may have this log. -/
def Orderly (config : Config) (url : String) (log : List Note) : Prop :=
  (Account.new config url).Allows log

namespace Orderly

variable {config : Config} {url : String} {log : List Note}

theorem sound (h : Orderly config url log) : (account config url log).Sound :=
  (Account.sound_new config url).foldl h

theorem append {more : List Note} :
    Orderly config url (log ++ more) ↔
      Orderly config url log ∧ (account config url log).Allows more :=
  Account.along_append

theorem snoc {note : Note} :
    Orderly config url (log ++ [note]) ↔
      Orderly config url log ∧ (account config url log).Permits note := by
  rw [append]
  simp only [Account.Along, and_true]

end Orderly
end ScriptConsole
