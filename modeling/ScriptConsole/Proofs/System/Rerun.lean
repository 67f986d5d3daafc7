import ScriptConsole.Proofs.System.Following
import ScriptConsole.Proofs.System.Mirror

/-!
A session runs a whole program after whatever it was at before. What it shows then and where it
gets depends on the program and on the answers alone.
-/

namespace ScriptConsole

variable {σ : Type}

namespace Account

theorem note_config (a : Account) (note : Note) : (a.note note).config = a.config := by
  cases note with
  | did done =>
      cases done with
      | wrote content answer => cases answer <;> cases content <;> rfl
      | spawned answer => cases answer <;> rfl
      | posted worker command answer => cases answer <;> cases command <;> rfl
      | terminated worker => rfl
      | discarded worker => rfl
  | heard worker heard =>
      cases heard with
      | event event => cases event <;> rfl
      | quiet => rfl
      | gone => rfl
  | said worker event => rw [note, said_eq]
  | ended worker request result => rw [note, ended_eq]
  | called call => rfl
  | replied result => rfl
  | showed session => rfl

end Account

theorem account_config (config : Config) (url : String) (log : List Note) :
    (account config url log).config = config := by
  induction log using List.reverseRecOn with
  | nil => rfl
  | append_singleton log note ih =>
      rw [account_append, List.foldl_cons, List.foldl_nil, Account.note_config, ih]

namespace System

/-- The session rests after any steps in any order since it was new, and no program runs. Its
buffer can be written, and its workers are of this kind. -/
structure Poised (system : System σ) (staff : Staff σ) (session : Session) : Prop where
  reached : ∃ world log, world.lanes = [] ∧ world.Shares ∧
    Run (.new world staff.config) log system
  rests : ∃ last, system.activity = .resting session last
  idle : session.isRunPending = false
  engages : system.world.Engages staff

/-- The session was told to run this program, and with these answers it has got here. The program
runs on the next worker. -/
def Reruns (begin : System σ) (code : String) (answers : List String) (system : System σ) :
    Prop :=
  ∃ name launched, begin.step (.call (.runSource name (.ok code))) = some launched ∧
    launched.Following begin.world.lanes.length answers system

variable {staff : Staff σ} {code : String} {answers : List String}
  {begin first second system system' : System σ} {session session' : Session}

theorem Poised.launch (h : begin.Poised staff session) {name : String}
    (hstep : begin.step (.call (.runSource name (.ok code))) = some system) :
    system.Underway staff begin.world.buffer.url begin.world.lanes.length
      session.sequence.toNat code [] := by
  obtain ⟨world, log, hnew, hshares, hrun⟩ := h.reached
  obtain ⟨last, hrests⟩ := h.rests
  have hfollows := hrun.follows hnew hshares
  have hsuits : Stage.Suits (.resting session) (account staff.config world.buffer.url log) := by
    have hsuits := hfollows.suits
    rwa [stage, hrests] at hsuits
  obtain ⟨hclear, hbooting, -⟩ := hsuits
  have hpending : session.pending = none := by
    have hidle := h.idle
    rw [Session.isRunPending, hclear.agrees.pending, hbooting, if_neg Bool.false_ne_true] at hidle
    rw [hclear.agrees.pending, hbooting, if_neg Bool.false_ne_true]
    by_cases hruns : (account staff.config world.buffer.url log).replies <
        (account staff.config world.buffer.url log).runs
    · rw [if_pos hruns] at hidle
      cases hidle
    · rw [if_neg hruns]
  -- What the launch reads of the session besides is settled by the surroundings.
  have hconfig : session.config = staff.config :=
    hclear.agrees.config.trans (account_config ..)
  have hurl : session.bufferUrl = begin.world.buffer.url :=
    hclear.agrees.url.trans hfollows.tends.url.symm
  have hspawned : session.spawned = begin.world.lanes.length :=
    hclear.agrees.spawned.trans hfollows.tends.spawned.symm
  obtain ⟨next, started, hcall, hnext, hstarts⟩ :=
    Session.runSource_starts hpending name code
  rw [hconfig, hurl, hspawned] at hstarts
  have hact : system = begin.act none (session.call (.runSource name (.ok code))) := by
    rw [step, hrests] at hstep
    exact (Option.some.inj hstep).symm
  rcases hcall with hwrite | ⟨old, more, -, hterminate, hmore⟩
  · rw [hwrite] at hact
    subst hact
    exact ⟨⟨_, _, _, hfollows.step hstep⟩, by rintro _ _ _ ⟨⟩,
      ⟨.vacant, h.engages, rfl, .clearing hnext hstarts⟩⟩
  · rw [hterminate] at hact
    subst hact
    exact ⟨⟨_, _, _, hfollows.step hstep⟩, by rintro _ _ _ ⟨⟩,
      ⟨.vacant, h.engages, rfl, .leaving hmore hnext hstarts⟩⟩

theorem Poised.underway (h : begin.Poised staff session)
    (hreruns : begin.Reruns code answers system) :
    system.Underway staff begin.world.buffer.url begin.world.lanes.length
      session.sequence.toNat code answers := by
  obtain ⟨name, launched, hstep, hfollowing⟩ := hreruns
  exact hfollowing.underway (h.launch hstep)

/-- What a session shows of a program, and what it is at where the program goes on no further by
itself, is what the program recites with these answers on an interpreter that has just booted. So
it makes no difference what the session was at before, in which order things happen, how long the
user waits and what becomes of other workers. And from wherever the session has got to it can get
there, unless more lines were written than there are numbers for them. -/
theorem rerun_starts_afresh (h : first.Poised staff session) (h' : second.Poised staff session')
    (code : String) (answers : List String) :
    (∀ system system' rested rested', first.Reruns code answers system →
      second.Reruns code answers system' → system.Pauses rested → system'.Pauses rested' →
      rested.Resembles rested' ∧
      rested.Displays ((staff.begun code).recite answers).entries ∧
      rested.Halts ((staff.begun code).recite answers).halt) ∧
    (staff.config.initTimeoutMs ≠ some 0 →
      session.sequence.toNat + answers.length ≤ UInt64.size →
      ∀ system, first.Reruns code answers system → system.CanPause first.world.lanes.length) := by
  constructor
  · intro system system' rested rested' hreruns hreruns' hpauses hpauses'
    obtain ⟨given, shown, halt, hrecital, hemploys, hhalts⟩ :=
      (h.underway hreruns).passage.recites hpauses
    obtain ⟨given', shown', halt', hrecital', hemploys', hhalts'⟩ :=
      (h'.underway hreruns').passage.recites hpauses'
    rw [hrecital] at hrecital' ⊢
    cases hrecital'
    exact ⟨hemploys.resembles hhalts hemploys' hhalts', hemploys.displays, hhalts⟩
  · intro hpatient hgiven system hreruns
    exact (h.underway hreruns).canPause (exists_patience hpatient) hgiven

/-! ### A script that asks -/

theorem Poised.exists_rerun (h : begin.Poised staff session) (code : String) :
    ∃ system, begin.Reruns code [] system := by
  obtain ⟨last, hrests⟩ := h.rests
  refine ⟨begin.act none (session.call (.runSource "" (.ok code))), "", _, ?_, .begin⟩
  rw [step, hrests]

theorem Reruns.exists_line (h : begin.Reruns code answers system) {rested : Session}
    (hpauses : system.Pauses rested) (hawaiting : rested.isAwaitingInput = true)
    (text : String) :
    ∃ system', begin.Reruns code (answers ++ Label.answers (.call (.line text))) system' := by
  obtain ⟨name, launched, hlaunch, hfollowing⟩ := h
  obtain ⟨⟨last, hrests⟩, -⟩ := hpauses
  have hstep : system.step (.call (.line text)) =
      some (system.act none (rested.call (.line text))) := by
    rw [step, hrests]
  have hintime : (system.act none (rested.call (.line text))).InTime := by
    intro session' after deadline hlistening
    exact absurd (Activity.eq_done_of_listening hlistening)
      (rested.line_isPrompt text after session')
  exact ⟨_, name, launched, hlaunch,
    hfollowing.step hstep ⟨rested, last, hrests, hawaiting⟩ hintime⟩

theorem Reruns.exists_pause (h : begin.Reruns code answers system)
    (hcan : system.CanPause begin.world.lanes.length) :
    ∃ system' rested, begin.Reruns code answers system' ∧ system'.Pauses rested := by
  obtain ⟨name, launched, hlaunch, hfollowing⟩ := h
  obtain ⟨system', rested, hmore, hpauses⟩ := hcan
  have hafter := hfollowing.trans hmore
  rw [List.append_nil] at hafter
  exact ⟨system', rested, ⟨name, launched, hlaunch, hafter⟩, hpauses⟩

end System

namespace Script

/-- Workers that run scripts, which may wait for a line as long as they like. -/
def staff : Staff Scope where
  interpreter := interpreter []
  channel := .direct
  config := .default
  state := ⟨[], [], []⟩
  boots := rfl
  untimed := rfl

/-- A session at the beginning. -/
def newSystem : System Scope :=
  .new (.new staff.interpreter staff.channel (.memory "0") .empty) staff.config

/-- Steps after which a run has failed, the worker is gone, and a block is typed but for its
end. -/
def past : List Label :=
  [.call .start, .deed, .deed, .deed, .work 0, .work 0, .hear, .call (.submit "input()"), .deed,
    .call .teardown, .deed, .deed, .call (.line "if 1:")]

theorem recite_echo : (staff.begun (echo ++ "\n")).recite [] =
    ⟨[⟨.output, "? "⟩], .asking (some "? ")⟩ := by
  rw [Staff.begun, staff, execution_echo]
  rfl

theorem recite_echo_answered (answer : String) : (staff.begun (echo ++ "\n")).recite [answer] =
    ⟨[⟨.output, "? "⟩, ⟨.input, answer⟩, ⟨.output, answer⟩], .ended (.completed none)⟩ := by
  rw [Staff.begun, staff, execution_echo]
  rfl

theorem newSystem_poised :
    newSystem.Poised staff (.new staff.config newSystem.world.buffer.url) where
  reached := ⟨_, [], rfl, by rintro ⟨⟩, .start⟩
  rests := ⟨_, rfl⟩
  idle := rfl
  engages := ⟨rfl, rfl, rfl, ⟨.empty, _, rfl⟩, by rintro ⟨⟩⟩

theorem exists_past : ∃ system session, newSystem.steps past = some system ∧
    system.Poised staff session ∧ session.statements.lines ≠ [] ∧ session.lastRun ≠ none ∧
      session.sequence = 0 := by
  have hreached {system : System Scope} (hsteps : newSystem.steps past = some system) :
      ∃ world log, world.lanes = [] ∧ world.Shares ∧
        System.Run (.new world staff.config) log system :=
    ⟨_, _, rfl, by rintro ⟨⟩, .of_steps hsteps⟩
  refine ⟨_, _, rfl, ⟨hreached rfl, ⟨_, rfl⟩, rfl, ⟨rfl, rfl, rfl, ⟨.closed, _, rfl⟩, ?_⟩⟩, ?_, ?_,
    rfl⟩
  · rintro ⟨⟩
  · rintro ⟨⟩
  · rintro ⟨⟩

end Script

namespace System

theorem rerun_starts_afresh_echo :
    ∃ second session, Script.newSystem.steps Script.past = some second ∧
      second.Poised Script.staff session ∧ session.statements.lines ≠ [] ∧
      session.lastRun ≠ none ∧
      ∃ system system' rested rested',
        Script.newSystem.Reruns (Script.echo ++ "\n") ["yes"] system ∧
        second.Reruns (Script.echo ++ "\n") ["yes"] system' ∧
        system.Pauses rested ∧ system'.Pauses rested' ∧ rested.Resembles rested' ∧
        rested.lastRun = some (.completed none) ∧
        rested.transcript.entries = [⟨.info, Session.initializing⟩, ⟨.output, "? "⟩,
          ⟨.input, "yes"⟩, ⟨.output, "yes"⟩] := by
  obtain ⟨second, session, hpast, hsecond, hlines, hlast, hsequence⟩ := Script.exists_past
  have hfirst := Script.newSystem_poised
  have hpatient : Script.staff.config.initTimeoutMs ≠ some 0 := by decide
  have hyes : Label.answers (.call (.line "yes")) = ["yes"] := by decide
  -- Each of the two gets to where the script asks and, with the answer, to where it has ended.
  have hpause {begin other : System Script.Scope} {session other' : Session}
      (h : begin.Poised Script.staff session) (h' : other.Poised Script.staff other')
      (hsequence : session.sequence = 0) : ∃ system rested,
        begin.Reruns (Script.echo ++ "\n") ["yes"] system ∧ system.Pauses rested := by
    have hcan {answers : List String} (hone : answers.length ≤ 1) {system : System Script.Scope}
        (hreruns : begin.Reruns (Script.echo ++ "\n") answers system) :
        ∃ system' rested, begin.Reruns (Script.echo ++ "\n") answers system' ∧
          system'.Pauses rested := by
      refine hreruns.exists_pause ((rerun_starts_afresh h h' _ answers).2 hpatient ?_ _ hreruns)
      rw [hsequence]
      exact Nat.le_trans (Nat.add_le_add_left hone _) (by decide)
    obtain ⟨launched, hlaunched⟩ := h.exists_rerun (Script.echo ++ "\n")
    obtain ⟨asking, asked, hasking, hasked⟩ := hcan (by decide) hlaunched
    have hhalts := ((rerun_starts_afresh h h _ []).1 _ _ _ _ hasking hasking hasked hasked).2.2
    rw [Script.recite_echo] at hhalts
    obtain ⟨request, hrequest⟩ := hhalts
    obtain ⟨answered, hanswered⟩ :=
      hasking.exists_line hasked hrequest.isAwaitingInput "yes"
    rw [hyes] at hanswered
    exact hcan (by decide) hanswered
  obtain ⟨system, rested, hreruns, hpauses⟩ := hpause hfirst hsecond rfl
  obtain ⟨system', rested', hreruns', hpauses'⟩ := hpause hsecond hfirst hsequence
  obtain ⟨hresembles, hdisplays, hhalts⟩ :=
    (rerun_starts_afresh hfirst hsecond _ ["yes"]).1 _ _ _ _ hreruns hreruns' hpauses hpauses'
  rw [Script.recite_echo_answered] at hdisplays hhalts
  exact ⟨second, session, hpast, hsecond, hlines, hlast, system, system', rested, rested',
    hreruns, hreruns', hpauses, hpauses', hresembles, hhalts.lastRun, hdisplays⟩

end System
end ScriptConsole
