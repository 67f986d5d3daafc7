import ScriptConsole.Proofs.System.Standing

/-!
A worker in the middle of a text. What the session has shown, what the worker has said without
being heard and what the worker has yet to say add up to what the reference shows.
-/

namespace ScriptConsole

variable {σ : Type}

/-- The last line that the bridge took is one of the first `answers` lines. -/
def Bridge.Before (bridge : Bridge) (answers : Nat) : Prop :=
  ∀ seen, bridge.lastSequence = some seen → ∃ number < answers, seen = UInt64.ofNat number

/-- There is nothing for the bridge to take. -/
structure Bridge.Calm (bridge : Bridge) (content : Content) (answers : Nat) : Prop where
  stale : content.isNewerThan bridge.lastSequence = false
  before : bridge.Before answers

theorem Bridge.Calm.cleared {bridge : Bridge} {content : Content} {answers : Nat}
    (h : bridge.Calm content answers) : bridge.Calm .empty answers :=
  ⟨rfl, h.before⟩

/-- What a session shows of some events. -/
def told (events : List Event) : List Entry :=
  events.flatMap Event.entries

theorem told_cons (event : Event) (events : List Event) :
    told (event :: events) = event.entries ++ told events :=
  List.flatMap_cons

theorem told_snoc (events : List Event) (event : Event) :
    told (events ++ [event]) = told events ++ event.entries := by
  rw [told, told, List.flatMap_append, List.flatMap_singleton]

/-- What the worker goes on with. -/
inductive Standing.Ahead (answers : Nat) (content : Content) : Standing σ → Execution σ → Prop where
  | running {bridge : Bridge} {execution : Execution σ} (hcalm : bridge.Calm content answers) :
      Ahead answers content (.running bridge execution) execution
  | answered {bridge : Bridge} {request : UInt64} {number : Nat} {text : String}
      {next : Except HostError String → Execution σ} (hnumber : number < answers)
      (hbefore : bridge.Before number)
      (hcontent : content = .line request (UInt64.ofNat number) text) :
      Ahead answers content (.asking bridge request next) (next (.ok text))

/-- What was shown, what is to be heard and what the worker has yet to say of a text add up to
the reference. -/
inductive Standing.Tells (answers : Nat) (content : Content) (r : Reference σ)
    (shown : List Entry) : Standing σ → List Event → Prop where
  | ahead {standing : Standing σ} {execution : Execution σ} {outbox : List Event}
      (hahead : standing.Ahead answers content execution)
      (hwrites : ∀ event ∈ outbox, event.IsWrite)
      (hcomes : r.Comes (shown ++ told outbox) execution) :
      Tells answers content r shown standing outbox
  | asked {bridge : Bridge} {request : UInt64} {prompt : Option String} {writes : List Event}
      {next : Except HostError String → Execution σ} (hcalm : bridge.Calm content answers)
      (hwrites : ∀ event ∈ writes, event.IsWrite) (hstatements : r.statements = .empty)
      (hpause : r.pause = .asking next)
      (hentries : r.entries = shown ++ told (writes ++ [.input request prompt])) :
      Tells answers content r shown (.asking bridge request next)
        (writes ++ [.input request prompt])
  | ended {live : Live σ} {outcome : RunOutcome} {writes : List Event}
      (hcalm : live.bridge.Calm content answers) (hwrites : ∀ event ∈ writes, event.IsWrite)
      (hstatements : r.statements = .empty) (hpause : r.pause = .idle live.state)
      (hlast : r.outcomes.getLast? = some outcome)
      (hentries : r.entries = shown ++ told (writes ++ [outcome.event])) :
      Tells answers content r shown (.free live) (writes ++ [outcome.event])

namespace Standing

variable {service : Service σ} {answers : Nat} {content : Content} {r : Reference σ}
  {shown : List Entry} {standing standing' : Standing σ} {outbox events : List Event}

theorem Ahead.tells {execution : Execution σ} (h : standing.Ahead answers content execution)
    (hcomes : r.Comes shown execution) : standing.Tells answers content r shown [] := by
  rw [← List.append_nil shown] at hcomes
  exact .ahead h (by rintro _ ⟨⟩) hcomes

theorem Ahead.heeds {execution : Execution σ} (h : standing.Ahead answers content execution) :
    standing.Heeds content := by
  cases h with
  | running => exact trivial
  | answered hnumber hbefore hcontent => exact fun _ => ⟨_, _, hcontent⟩

theorem Tells.heeds (h : standing.Tells answers content r shown outbox) :
    standing.Heeds content := by
  cases h with
  | ahead hahead => exact hahead.heeds
  | asked hcalm => exact fun hnewer => absurd (hcalm.stale.symm.trans hnewer) (by simp)
  | ended => exact trivial

theorem Tells.goes (h : standing.Tells answers content r shown outbox)
    (hgoes : standing.Goes service content events standing') :
    standing'.Tells answers content r shown (outbox ++ events) := by
  cases h with
  | asked hcalm hwrites hstatements hpause hentries =>
      cases hgoes with
      | stay => simpa using Tells.asked hcalm hwrites hstatements hpause hentries
      | answered hcontent hnewer => exact absurd (hcalm.stale.symm.trans hnewer) (by simp)
  | ended hcalm hwrites hstatements hpause hlast hentries =>
      cases hgoes with
      | stay => simpa using Tells.ended hcalm hwrites hstatements hpause hlast hentries
  | ahead hahead hwrites hcomes =>
      cases hahead with
      | answered hnumber hbefore hcontent =>
          cases hgoes with
          | stay => simpa using Tells.ahead (.answered hnumber hbefore hcontent) hwrites hcomes
          | answered hline hnewer =>
              cases hcontent.symm.trans hline
              rw [List.append_nil]
              refine .ahead (.running ⟨?_, ?_⟩) hwrites hcomes
              · simp [hline, Content.isNewerThan]
              · rintro _ ⟨⟩
                exact ⟨_, hnumber, rfl⟩
      | running hcalm =>
          have hsnoc {event : Event} (hwrite : event.IsWrite) :
              ∀ write ∈ outbox ++ [event], write.IsWrite := by
            intro write hmem
            rcases List.mem_append.mp hmem with hmem | hmem
            · exact hwrites write hmem
            · rw [List.mem_singleton.mp hmem]
              exact hwrite
          cases hgoes with
          | stay => simpa using Tells.ahead (.running hcalm) hwrites hcomes
          | stdout =>
              refine .ahead (.running hcalm) (hsnoc trivial) ?_
              rw [told_snoc, ← List.append_assoc]
              exact hcomes.stdout
          | stderr =>
              refine .ahead (.running hcalm) (hsnoc trivial) ?_
              rw [told_snoc, ← List.append_assoc]
              exact hcomes.stderr
          | asked =>
              obtain ⟨hentries, hstatements, hpause⟩ := hcomes.stdin
              refine .asked ⟨hcalm.stale, hcalm.before⟩ hwrites hstatements hpause ?_
              rw [told_snoc, ← List.append_assoc, hentries, Event.entries, Entry.ofText?_prompt]
          | @ended _ ending _ hplain =>
              obtain ⟨hentries, hstatements, hpause, hlast⟩ := hcomes.done
              refine .ended hcalm hwrites hstatements hpause hlast ?_
              have houtcome : RunOutcome.ofEnding ending ≠ .completed (some "") := by
                cases ending with
                | ok output => simpa [RunOutcome.ofEnding] using hplain
                | raised error => simp [RunOutcome.ofEnding]
                | panicked message => simp [RunOutcome.ofEnding]
              rw [told_snoc, ← List.append_assoc, hentries, RunOutcome.entries_event houtcome]

theorem Tells.hear {event : Event}
    (h : standing.Tells answers content r shown (event :: events)) :
    (event.IsWrite ∧ standing.Tells answers content r (shown ++ event.entries) events) ∨
      (events = [] ∧ r.statements = .empty ∧ r.entries = shown ++ event.entries ∧
        ∃ bridge request prompt next, event = .input request prompt ∧
          standing = .asking bridge request next ∧ bridge.Calm content answers ∧
          r.pause = .asking next) ∨
      events = [] ∧ r.statements = .empty ∧ r.entries = shown ++ event.entries ∧
        ∃ live outcome, event = RunOutcome.event outcome ∧ standing = .free live ∧
          live.bridge.Calm content answers ∧ r.pause = .idle live.state ∧
          r.outcomes.getLast? = some outcome := by
  have hshown {rest : List Event} :
      shown ++ told (event :: rest) = shown ++ event.entries ++ told rest := by
    rw [told_cons, List.append_assoc]
  generalize hheard : event :: events = heard at h
  cases h with
  | ahead hahead hwrites hcomes =>
      subst hheard
      rw [hshown] at hcomes
      exact .inl ⟨hwrites event List.mem_cons_self,
        .ahead hahead (List.forall_mem_of_forall_mem_cons hwrites) hcomes⟩
  | @asked bridge request prompt writes next hcalm hwrites hstatements hpause hentries =>
      cases writes with
      | nil =>
          cases hheard
          rw [List.nil_append, hshown] at hentries
          exact .inr (.inl ⟨rfl, hstatements, hentries.trans (List.append_nil _), _, _, _, _,
            rfl, rfl, hcalm, hpause⟩)
      | cons write writes =>
          cases hheard
          rw [List.cons_append, hshown] at hentries
          exact .inl ⟨hwrites _ List.mem_cons_self,
            .asked hcalm (List.forall_mem_of_forall_mem_cons hwrites) hstatements hpause hentries⟩
  | @ended live outcome writes hcalm hwrites hstatements hpause hlast hentries =>
      cases writes with
      | nil =>
          cases hheard
          rw [List.nil_append, hshown] at hentries
          exact .inr (.inr ⟨rfl, hstatements, hentries.trans (List.append_nil _), _, _, rfl, rfl,
            hcalm, hpause, hlast⟩)
      | cons write writes =>
          cases hheard
          rw [List.cons_append, hshown] at hentries
          exact .inl ⟨hwrites _ List.mem_cons_self,
            .ended hcalm (List.forall_mem_of_forall_mem_cons hwrites) hstatements hpause hlast
              hentries⟩

end Standing

end ScriptConsole
