import Mathlib.Data.List.Induction
import ScriptConsole.Proofs.Session.Course

/-!
Runs and their outcomes. Replies carry no number, yet each outcome that a session records belongs
to the text that was submitted for it: a worker is told to run the next text only after it has
replied to the one before.
-/

namespace ScriptConsole

namespace Note

/-- A worker was told to run a text. -/
def submission? : Note → Option (Nat × String)
  | .did (.posted worker (.run code) (.ok _)) => some (worker, code)
  | _ => none

/-- The worker replied to a text: how the run ended. -/
def answer? (worker : Nat) : Note → Option RunOutcome
  | .heard speaker (.event (.run success output error)) =>
      if speaker = worker then some (.ofReply success output error) else none
  | _ => none

/-- How the last run ended when the session showed itself. -/
def shown? : Note → Option (Option RunOutcome)
  | .showed session => some session.lastRun
  | _ => none

end Note

/-- The outcomes that come up where there was none before. -/
def RunOutcome.news : Option RunOutcome → List (Option RunOutcome) → List RunOutcome
  | _, [] => []
  | none, some outcome :: shown => outcome :: news (some outcome) shown
  | none, none :: shown => news none shown
  | some _, next :: shown => news next shown

namespace Session

/-- The texts that workers were told to run, each with its worker. -/
def submissions (log : List Note) : List (Nat × String) :=
  log.filterMap Note.submission?

/-- How many texts a worker was told to run. -/
def told (worker : Nat) (log : List Note) : Nat :=
  (submissions log).countP fun submission => submission.1 == worker

/-- The replies of a worker to the texts that it was told to run. -/
def answers (worker : Nat) (log : List Note) : List RunOutcome :=
  log.filterMap (Note.answer? worker)

/-- The outcomes that the session recorded. -/
def outcomes (log : List Note) : List RunOutcome :=
  RunOutcome.news none (log.filterMap Note.shown?)

/-- Each worker replies once, and in order, to what it was told to run. -/
def Dutiful (log : List Note) : Prop :=
  ∀ before worker success output error after,
    log = before ++ .heard worker (.event (.run success output error)) :: after →
      (answers worker before).length < told worker before

/-- The outcome belongs to the text submitted as number `k`: it is what the worker replied to this
very text, or a failure for which the session let go of a worker that had not replied to it. -/
def Credits (log : List Note) (k : Nat) (outcome : RunOutcome) : Prop :=
  ∃ worker code, (submissions log)[k]? = some (worker, code) ∧
    let turn := ((submissions log).take k).countP fun submission => submission.1 == worker
    (answers worker log)[turn]? = some outcome ∨
      (answers worker log).length ≤ turn ∧ .did (.terminated worker) ∈ log ∧
        ∃ reason ∈ [TransportError.disconnected, .terminated .run],
          outcome = .failed reason.message

end Session

namespace RunOutcome

theorem news_append (shown : Option RunOutcome) (log : List (Option RunOutcome))
    (next : Option RunOutcome) :
    news shown (log ++ [next]) = news shown log ++ news (log.getLastD shown) [next] := by
  induction log generalizing shown with
  | nil => rfl
  | cons last log ih =>
      have hlast : (last :: log).getLastD shown = log.getLastD last := by
        cases log <;> simp [List.getLastD]
      rw [hlast]
      cases shown with
      | none =>
          cases last with
          | none => simpa only [List.cons_append, news] using ih none
          | some outcome =>
              simp only [List.cons_append, news, ih, List.cons_append]
      | some shown => simpa only [List.cons_append, news] using ih last

end RunOutcome
namespace Session

variable {a : Account} {log : List Note} {note : Note}

theorem submissions_snoc (log : List Note) (note : Note) :
    submissions (log ++ [note]) = submissions log ++ note.submission?.toList := by
  cases hnote : note.submission? <;> simp [submissions, List.filterMap_append, hnote]

theorem answers_snoc (worker : Nat) (log : List Note) (note : Note) :
    answers worker (log ++ [note]) = answers worker log ++ (note.answer? worker).toList := by
  cases hnote : note.answer? worker <;> simp [answers, List.filterMap_append, hnote]

theorem shown_snoc (log : List Note) (note : Note) :
    (log ++ [note]).filterMap Note.shown? = log.filterMap Note.shown? ++ note.shown?.toList := by
  cases hnote : note.shown? <;> simp [List.filterMap_append, hnote]

theorem submissions_same (log : List Note) (hnote : note.submission? = none) :
    submissions (log ++ [note]) = submissions log := by
  rw [submissions_snoc, hnote, Option.toList_none, List.append_nil]

theorem told_same (worker : Nat) (log : List Note) (hnote : note.submission? = none) :
    told worker (log ++ [note]) = told worker log := by
  rw [told, submissions_same log hnote, told]

theorem answers_same (log : List Note) {worker : Nat} (hnote : note.answer? worker = none) :
    answers worker (log ++ [note]) = answers worker log := by
  rw [answers_snoc, hnote, Option.toList_none, List.append_nil]

theorem shown_same (log : List Note) (hnote : note.shown? = none) :
    (log ++ [note]).filterMap Note.shown? = log.filterMap Note.shown? := by
  rw [shown_snoc, hnote, Option.toList_none, List.append_nil]

theorem outcomes_same (log : List Note) (hnote : note.shown? = none) :
    outcomes (log ++ [note]) = outcomes log := by
  rw [outcomes, shown_same log hnote, outcomes]

/-- A note that tells nothing about runs. -/
structure Plain (note : Note) : Prop where
  submission : note.submission? = none
  answer : ∀ worker, note.answer? worker = none
  shown : note.shown? = none
  terminated : ∀ worker, note ≠ .did (.terminated worker)

/-- What is known of runs and outcomes by a log with this account. -/
structure Tallied (a : Account) (log : List Note) : Prop where
  submits : a.submits = (submissions log).length
  outcomes : a.outcomes = (outcomes log).length
  shown : a.shown = (log.filterMap Note.shown?).getLastD none
  fresh : ∀ worker, a.spawned ≤ worker ∨ a.unborn = some worker →
    told worker log = 0 ∧ answers worker log = []
  live : ∀ worker, a.live = some worker →
    told worker log = a.runs ∧ (answers worker log).length = a.replies
  gone : ∀ worker, .did (.terminated worker) ∈ log →
    worker < a.spawned ∧ a.unborn ≠ some worker ∧ a.live ≠ some worker
  pending : a.replies < a.runs →
    ∃ worker code, a.live = some worker ∧ (submissions log).getLast? = some (worker, code)
  credited : ∀ k outcome, (Session.outcomes log)[k]? = some outcome → Credits log k outcome
  last : ∀ outcome, a.last = some outcome → Credits log (a.submits - 1) outcome
  latest : ∀ outcome, a.shown = some outcome → (Session.outcomes log).getLast? = some outcome
  steady : ∀ outcome, a.shown = some outcome → a.last = none ∨ a.last = some outcome

/-- An outcome still belongs to its text when more is noted, since nobody hears of a worker again
that was let go of. -/
theorem Credits.snoc {k : Nat} {outcome : RunOutcome} (h : Credits log k outcome)
    (hgone : ∀ worker, .did (.terminated worker) ∈ log → note.answer? worker = none) :
    Credits (log ++ [note]) k outcome := by
  obtain ⟨worker, code, hat, hends⟩ := h
  have hk : k < (submissions log).length := (List.getElem?_eq_some_iff.mp hat).1
  have htake : (submissions (log ++ [note])).take k = (submissions log).take k := by
    rw [submissions_snoc, List.take_append_of_le_length (Nat.le_of_lt hk)]
  refine ⟨worker, code, ?_, ?_⟩
  · rw [submissions_snoc, List.getElem?_append_left hk, hat]
  · rw [htake, answers_snoc]
    rcases hends with hanswer | ⟨hunanswered, hterminated, hreason⟩
    · left
      rw [List.getElem?_append_left (List.getElem?_eq_some_iff.mp hanswer).1, hanswer]
    · right
      rw [hgone worker hterminated]
      exact ⟨by simpa using hunanswered, List.mem_append_left _ hterminated, hreason⟩

namespace Tallied

theorem new (config : Config) (url : String) : Tallied (.new config url) [] where
  submits := rfl
  outcomes := rfl
  shown := rfl
  fresh _ _ := ⟨rfl, rfl⟩
  live := by rintro _ ⟨⟩
  gone := by rintro _ ⟨⟩
  pending := by rintro ⟨⟩
  credited := by rintro _ _ ⟨⟩
  last := by rintro _ ⟨⟩
  latest := by rintro _ ⟨⟩
  steady := by rintro _ ⟨⟩

theorem plain (h : Tallied a log) (hplain : Plain note) {a' : Account}
    (hsame : a'.submits = a.submits ∧ a'.outcomes = a.outcomes ∧ a'.shown = a.shown ∧
      a'.last = a.last)
    (hfresh : ∀ worker, a'.spawned ≤ worker ∨ a'.unborn = some worker →
      a.spawned ≤ worker ∨ a.unborn = some worker)
    (hlive : ∀ worker, a'.live = some worker →
      told worker log = a'.runs ∧ (answers worker log).length = a'.replies)
    (hgone : ∀ worker, .did (.terminated worker) ∈ log →
      worker < a'.spawned ∧ a'.unborn ≠ some worker ∧ a'.live ≠ some worker)
    (hpending : a'.replies < a'.runs → a.replies < a.runs ∧ a'.live = a.live) :
    Tallied a' (log ++ [note]) := by
  obtain ⟨hsubmits, houtcomes, hshown, hlast⟩ := hsame
  have hsubmissions := submissions_same log hplain.submission
  have hall := outcomes_same log hplain.shown
  have hcredits {k : Nat} {outcome : RunOutcome} (hc : Credits log k outcome) :
      Credits (log ++ [note]) k outcome := hc.snoc fun worker _ => hplain.answer worker
  constructor
  case submits => rw [hsubmits, hsubmissions, h.submits]
  case outcomes => rw [houtcomes, hall, h.outcomes]
  case shown => rw [hshown, shown_same log hplain.shown, h.shown]
  case fresh =>
    intro worker hworker
    rw [told_same worker log hplain.submission, answers_same log (hplain.answer worker)]
    exact h.fresh worker (hfresh worker hworker)
  case live =>
    intro worker hworker
    rw [told_same worker log hplain.submission, answers_same log (hplain.answer worker)]
    exact hlive worker hworker
  case gone =>
    intro worker hterminated
    rcases List.mem_append.mp hterminated with hbefore | hnow
    · exact hgone worker hbefore
    · exact absurd (List.mem_singleton.mp hnow).symm (hplain.terminated worker)
  case pending =>
    intro hlt
    obtain ⟨hlt, hsame⟩ := hpending hlt
    rw [hsame, hsubmissions]
    exact h.pending hlt
  case credited =>
    intro k outcome hk
    rw [hall] at hk
    exact hcredits (h.credited k outcome hk)
  case last =>
    intro outcome houtcome
    rw [hsubmits]
    exact hcredits (h.last outcome (hlast.symm.trans houtcome))
  case latest =>
    intro outcome houtcome
    rw [hall]
    exact h.latest outcome (hshown.symm.trans houtcome)
  case steady =>
    intro outcome houtcome
    rw [hlast]
    exact h.steady outcome (hshown.symm.trans houtcome)

theorem heardOther (h : Tallied a log) {worker : Nat} {heard : Heard}
    (hother : ∀ success output error, heard ≠ .event (.run success output error)) :
    Tallied (a.heard heard) (log ++ [.heard worker heard]) := by
  have hplain : Plain (.heard worker heard) := by
    refine ⟨rfl, fun _ => ?_, rfl, (by rintro _ ⟨⟩)⟩
    cases heard with
    | event event => cases event with
      | run success output error => exact absurd rfl (hother success output error)
      | _ => rfl
    | _ => rfl
  have hnext (a' : Account) (hsame : a' = { a with
      booting := a'.booting
      lost := a'.lost
      request := a'.request
      requests := a'.requests }) : Tallied a' (log ++ [.heard worker heard]) := by
    rw [hsame]
    exact h.plain hplain ⟨rfl, rfl, rfl, rfl⟩ (fun _ hw => hw) h.live h.gone fun hlt => ⟨hlt, rfl⟩
  cases heard with
  | event event => cases event with
    | run success output error => exact absurd rfl (hother success output error)
    | _ => exact hnext _ rfl
  | _ => exact hnext _ rfl

/-- The text that a worker was told to run last has as many before it for the same worker as it
was told before. -/
theorem turn_of_last {worker : Nat} {code : String}
    (hlast : (submissions log).getLast? = some (worker, code)) :
    (submissions log)[(submissions log).length - 1]? = some (worker, code) ∧
      ((submissions log).take ((submissions log).length - 1)).countP
        (fun submission => submission.1 == worker) = told worker log - 1 := by
  rw [List.getLast?_eq_getElem?] at hlast
  refine ⟨hlast, ?_⟩
  have hlt := (List.getElem?_eq_some_iff.mp hlast).1
  have hsplit : submissions log =
      (submissions log).take ((submissions log).length - 1) ++ [(worker, code)] := by
    have hdrop := List.take_append_drop ((submissions log).length - 1) (submissions log)
    rw [List.drop_eq_getElem_cons hlt] at hdrop
    rw [(List.getElem?_eq_some_iff.mp hlast).2, List.drop_eq_nil_of_le (by omega)] at hdrop
    exact hdrop.symm
  have hcount : told worker log =
      ((submissions log).take ((submissions log).length - 1)).countP
        (fun submission => submission.1 == worker) + 1 := by
    conv_lhs => rw [told, hsplit, List.countP_append]
    simp
  omega

theorem credits_reply (h : Tallied a log) (hsound : a.Sound) {worker : Nat}
    (hlive : a.live = some worker) {success : Bool} {output error : Option String}
    (hexpects : a.replies < a.runs) :
    Credits (log ++ [.heard worker (.event (.run success output error))]) (a.submits - 1)
      (.ofReply success output error) := by
  have hle := hsound.runs_le
  obtain ⟨hcount, hanswered⟩ := h.live worker hlive
  obtain ⟨speaker, code, hsame, hlast⟩ := h.pending hexpects
  obtain rfl : worker = speaker := Option.some.inj (hlive.symm.trans hsame)
  obtain ⟨hat, hturn⟩ := turn_of_last hlast
  have hanswer : Note.answer? worker (.heard worker (.event (.run success output error))) =
      some (.ofReply success output error) := if_pos rfl
  refine ⟨worker, code, ?_, .inl ?_⟩
  · rw [submissions_same log rfl, h.submits, hat]
  · rw [submissions_same log rfl, h.submits, hturn, hcount, answers_snoc, hanswer,
      List.getElem?_append_right (by omega)]
    simp [show a.runs - 1 - (answers worker log).length = 0 by omega]

theorem heardRun (h : Tallied a log) (hsound : a.Sound) {worker : Nat}
    (hlive : a.live = some worker) (hshown : a.shown = a.last) {success : Bool}
    {output error : Option String} (hexpects : a.replies < a.runs) :
    Tallied (a.heard (.event (.run success output error)))
      (log ++ [.heard worker (.event (.run success output error))]) := by
  have hle := hsound.runs_le
  have hanswer (speaker : Nat) :
      Note.answer? speaker (.heard worker (.event (.run success output error))) =
        if worker = speaker then some (.ofReply success output error) else none := rfl
  obtain ⟨hcount, hanswered⟩ := h.live worker hlive
  obtain ⟨htell, hborn⟩ := hsound.live worker hlive
  have hnone : a.shown = none := hshown.trans (hsound.last.mpr (.inl hexpects))
  constructor
  case submits =>
    rw [submissions_same log rfl]
    exact h.submits
  case outcomes =>
    rw [outcomes_same log rfl]
    exact h.outcomes
  case shown =>
    rw [shown_same log rfl]
    exact h.shown
  case fresh =>
    intro speaker hspeaker
    have hother : worker ≠ speaker := by
      rintro rfl
      rcases hspeaker with hlate | hunborn
      · exact absurd htell (Nat.not_lt.mpr hlate)
      · cases hborn.symm.trans hunborn
    rw [told_same speaker log rfl, answers_same log ((hanswer speaker).trans (if_neg hother))]
    exact h.fresh speaker hspeaker
  case live =>
    intro speaker hspeaker
    obtain rfl : worker = speaker := Option.some.inj (hlive.symm.trans hspeaker)
    rw [told_same worker log rfl, answers_snoc, hanswer, if_pos rfl]
    exact ⟨hcount, by simpa [Account.heard] using hanswered⟩
  case gone =>
    intro speaker hterminated
    exact h.gone speaker (by simpa using hterminated)
  case pending =>
    intro hlt
    simp only [Account.heard] at hlt
    omega
  case credited =>
    intro k outcome hk
    rw [outcomes_same log rfl] at hk
    -- The session holds the speaker, so it has not let go of it before.
    refine (h.credited k outcome hk).snoc fun speaker hterminated => ?_
    rw [hanswer, if_neg]
    rintro rfl
    exact (h.gone worker hterminated).2.2 hlive
  case last =>
    rintro outcome houtcome
    obtain rfl : RunOutcome.ofReply success output error = outcome := Option.some.inj houtcome
    exact h.credits_reply hsound hlive hexpects
  case latest =>
    intro outcome houtcome
    cases hnone.symm.trans houtcome
  case steady =>
    intro outcome houtcome
    cases hnone.symm.trans houtcome

theorem spawned (h : Tallied a log) :
    Tallied (a.did (.spawned (.ok ()))) (log ++ [.did (.spawned (.ok ()))]) := by
  have hplain : Plain (.did (.spawned (.ok ()))) := ⟨rfl, fun _ => rfl, rfl, (by rintro _ ⟨⟩)⟩
  refine h.plain hplain ⟨rfl, rfl, rfl, rfl⟩ ?_ h.live ?_ fun hlt => ⟨hlt, rfl⟩
  · rintro worker (hlate | hunborn)
    · exact .inl (Nat.le_of_succ_le hlate)
    · exact .inl (Nat.le_of_eq (Option.some.inj hunborn))
  · intro worker hterminated
    obtain ⟨hlt, -, hlive⟩ := h.gone worker hterminated
    exact ⟨Nat.lt_succ_of_lt hlt, fun hsame => absurd (Option.some.inj hsame)
      (Nat.ne_of_gt hlt), hlive⟩

theorem discarded (h : Tallied a log) (worker : Nat) :
    Tallied (a.did (.discarded worker)) (log ++ [.did (.discarded worker)]) := by
  have hplain : Plain (.did (.discarded worker)) := ⟨rfl, fun _ => rfl, rfl, (by rintro _ ⟨⟩)⟩
  refine h.plain hplain ⟨rfl, rfl, rfl, rfl⟩ ?_ h.live ?_ fun hlt => ⟨hlt, rfl⟩
  · rintro other (hlate | hunborn)
    · exact .inl hlate
    · exact absurd hunborn (by rintro ⟨⟩)
  · intro other hterminated
    obtain ⟨hlt, -, hlive⟩ := h.gone other hterminated
    exact ⟨hlt, (by rintro ⟨⟩), hlive⟩

theorem booted (h : Tallied a log) (hsound : a.Sound) {worker : Nat} {setup : Setup}
    (hlive : a.live = none) (hunborn : a.unborn = some worker) :
    Tallied (a.posted worker (.init setup))
      (log ++ [.did (.posted worker (.init setup) (.ok ()))]) := by
  obtain ⟨hruns, hreplies, -⟩ := hsound.dead hlive
  obtain ⟨htold, hanswers⟩ := h.fresh worker (.inr hunborn)
  have hborn := (hsound.unborn worker hunborn).1
  have hplain : Plain (.did (.posted worker (.init setup) (.ok ()))) :=
    ⟨rfl, fun _ => rfl, rfl, (by rintro _ ⟨⟩)⟩
  refine h.plain hplain ⟨rfl, rfl, rfl, rfl⟩ ?_ ?_ ?_ ?_
  · rintro other (hlate | hnone)
    · exact .inl hlate
    · exact absurd hnone (by rintro ⟨⟩)
  · intro other hother
    obtain rfl : worker = other := Option.some.inj hother
    simp [Account.posted, hruns, hreplies, htold, hanswers]
  · intro other hterminated
    obtain ⟨hlt, hborn, -⟩ := h.gone other hterminated
    exact ⟨hlt, fun hnone => absurd hnone (by rintro ⟨⟩), fun hsame => hborn (hunborn.trans hsame)⟩
  · intro hlt
    exact absurd hlt (by simp [Account.posted, hruns, hreplies])

theorem ran (h : Tallied a log) (hsound : a.Sound) {worker : Nat} {code : String}
    (hlive : a.live = some worker) :
    Tallied (a.posted worker (.run code))
      (log ++ [.did (.posted worker (.run code) (.ok ()))]) := by
  have hsubmissions : submissions (log ++ [.did (.posted worker (.run code) (.ok ()))]) =
      submissions log ++ [(worker, code)] := submissions_snoc log _
  obtain ⟨hcount, hanswered⟩ := h.live worker hlive
  obtain ⟨htell, hborn⟩ := hsound.live worker hlive
  constructor
  case submits => simpa [hsubmissions, Account.posted] using h.submits
  case outcomes =>
    rw [outcomes_same log rfl]
    exact h.outcomes
  case shown =>
    rw [shown_same log rfl]
    exact h.shown
  case fresh =>
    intro speaker hspeaker
    have hne : worker ≠ speaker := by
      rintro rfl
      rcases hspeaker with hlate | hunborn
      · exact absurd htell (Nat.not_lt.mpr hlate)
      · cases hborn.symm.trans hunborn
    have htold : told speaker (log ++ [.did (.posted worker (.run code) (.ok ()))]) =
        told speaker log := by
      simp [told, hsubmissions, hne]
    rw [htold, answers_same log rfl]
    exact h.fresh speaker hspeaker
  case live =>
    intro speaker hspeaker
    obtain rfl : worker = speaker := Option.some.inj (hlive.symm.trans hspeaker)
    refine ⟨?_, ?_⟩
    · rw [told, hsubmissions, List.countP_append]
      simpa [Account.posted, told] using hcount
    · rw [answers_same log rfl]
      exact hanswered
  case gone =>
    intro speaker hterminated
    exact h.gone speaker (by simpa using hterminated)
  case pending => exact fun _ => ⟨worker, code, hlive, by simp [hsubmissions]⟩
  case credited =>
    intro k outcome hk
    rw [outcomes_same log rfl] at hk
    exact (h.credited k outcome hk).snoc fun _ _ => rfl
  case last => rintro _ ⟨⟩
  case latest =>
    rw [outcomes_same log rfl]
    exact h.latest
  case steady => exact fun _ _ => .inl rfl

theorem credits_loss (h : Tallied a log) {worker : Nat} (hlive : a.live = some worker)
    (hlt : a.replies < a.runs) {reason : TransportError}
    (hreason : reason ∈ [TransportError.disconnected, .terminated .run]) :
    Credits (log ++ [.did (.terminated worker)]) (a.submits - 1) (.failed reason.message) := by
  obtain ⟨hcount, hanswered⟩ := h.live worker hlive
  obtain ⟨speaker, code, hsame, hlast⟩ := h.pending hlt
  obtain rfl : worker = speaker := Option.some.inj (hlive.symm.trans hsame)
  obtain ⟨hat, hturn⟩ := turn_of_last hlast
  refine ⟨worker, code, ?_, .inr ⟨?_, by simp, reason, hreason, rfl⟩⟩
  · rw [submissions_same log rfl, h.submits, hat]
  · rw [submissions_same log rfl, h.submits, hturn, answers_same log rfl, hcount, hanswered]
    omega

theorem released (h : Tallied a log) (hsound : a.Sound) {worker : Nat}
    (hlive : a.live = some worker) (hshown : a.shown = a.last) :
    Tallied a.release (log ++ [.did (.terminated worker)]) := by
  have hcredits {k : Nat} {outcome : RunOutcome} (hc : Credits log k outcome) :
      Credits (log ++ [.did (.terminated worker)]) k outcome := hc.snoc fun _ _ => rfl
  obtain ⟨htell, hborn⟩ := hsound.live worker hlive
  constructor
  case submits =>
    rw [submissions_same log rfl]
    exact h.submits
  case outcomes =>
    rw [outcomes_same log rfl]
    exact h.outcomes
  case shown =>
    rw [shown_same log rfl]
    exact h.shown
  case fresh =>
    intro speaker hspeaker
    rw [told_same speaker log rfl, answers_same log rfl]
    exact h.fresh speaker hspeaker
  case live => rintro _ ⟨⟩
  case gone =>
    intro speaker hterminated
    rcases List.mem_append.mp hterminated with hbefore | hnow
    · obtain ⟨hlt, hunborn, -⟩ := h.gone speaker hbefore
      exact ⟨hlt, hunborn, (by rintro ⟨⟩)⟩
    · obtain rfl : speaker = worker := by simpa using hnow
      exact ⟨htell, fun hunborn => absurd (hborn.symm.trans hunborn) (by rintro ⟨⟩), (by rintro ⟨⟩)⟩
  case pending => exact fun hlt => absurd hlt (Nat.lt_irrefl 0)
  case credited =>
    intro k outcome hk
    rw [outcomes_same log rfl] at hk
    exact hcredits (h.credited k outcome hk)
  case last =>
    intro outcome houtcome
    -- Either the text submitted last was still running, or it had ended in this way before.
    by_cases hlt : a.replies < a.runs
    · simp only [Account.release, hlt, if_true, Option.some.injEq] at houtcome
      rw [← houtcome]
      exact h.credits_loss hlive hlt (by split <;> simp)
    · simp only [Account.release, hlt, if_false] at houtcome
      exact hcredits (h.last outcome houtcome)
  case latest =>
    rw [outcomes_same log rfl]
    exact h.latest
  case steady =>
    intro outcome houtcome
    have hends : a.last = some outcome := hshown.symm.trans houtcome
    have hlt : ¬ a.replies < a.runs := fun hlt =>
      absurd (hends.symm.trans (hsound.last.mpr (.inl hlt))) (by rintro ⟨⟩)
    simp only [Account.release, hlt, if_false]
    exact .inr hends

/-- The outcome that comes up when the session shows itself is the one of the text submitted
last. -/
theorem eq_last_of_news (h : Tallied a log) (hsound : a.Sound) {n : Nat} {outcome : RunOutcome}
    (hnews : (RunOutcome.news a.shown [a.last])[n]? = some outcome) :
    a.last = some outcome ∧ (Session.outcomes log).length + n = a.submits - 1 := by
  cases hshown : a.shown with
  | some _ => simp [hshown, RunOutcome.news] at hnews
  | none =>
      cases hends : a.last with
      | none => simp [hshown, hends, RunOutcome.news] at hnews
      | some ended =>
          simp only [hshown, hends, RunOutcome.news, List.getElem?_singleton,
            Option.ite_none_right_eq_some, Option.some.injEq] at hnews
          obtain ⟨rfl, rfl⟩ := hnews
          have htally := hsound.tally
          have houtcomes := h.outcomes
          simp only [hshown, hends, ne_eq, reduceCtorEq, not_false_eq_true, and_self, if_true,
            false_and, if_false] at htally
          exact ⟨rfl, by omega⟩

theorem showed (h : Tallied a log) (hsound : a.Sound) {session : Session}
    (hlast : session.lastRun = a.last) :
    Tallied (a.note (.showed session)) (log ++ [.showed session]) := by
  have hsubmissions : submissions (log ++ [.showed session]) = submissions log :=
    submissions_same log rfl
  have hfilter : (log ++ [Note.showed session]).filterMap Note.shown? =
      log.filterMap Note.shown? ++ [a.last] := by
    rw [shown_snoc, ← hlast]
    rfl
  have hcredits {k : Nat} {outcome : RunOutcome} (hc : Credits log k outcome) :
      Credits (log ++ [.showed session]) k outcome := hc.snoc fun _ _ => rfl
  have hnews : Session.outcomes (log ++ [.showed session]) =
      Session.outcomes log ++ RunOutcome.news a.shown [a.last] := by
    rw [Session.outcomes, hfilter, RunOutcome.news_append, ← h.shown]
    rfl
  constructor
  case submits =>
    rw [hsubmissions]
    exact h.submits
  case outcomes =>
    rw [hnews, List.length_append, ← h.outcomes]
    simp only [Account.note, hlast]
    cases a.shown <;> cases a.last <;> rfl
  case shown =>
    rw [hfilter]
    simp [Account.note, hlast]
  case fresh =>
    intro speaker hspeaker
    rw [told_same speaker log rfl, answers_same log rfl]
    exact h.fresh speaker hspeaker
  case live =>
    intro speaker hspeaker
    rw [told_same speaker log rfl, answers_same log rfl]
    exact h.live speaker hspeaker
  case gone =>
    intro speaker hterminated
    exact h.gone speaker (by simpa using hterminated)
  case pending =>
    intro hlt
    rw [hsubmissions]
    exact h.pending hlt
  case credited =>
    intro k outcome hk
    rw [hnews] at hk
    -- At most one outcome comes up, and it belongs to the text submitted last.
    rcases Nat.lt_or_ge k (Session.outcomes log).length with hbefore | hlate
    · rw [List.getElem?_append_left hbefore] at hk
      exact hcredits (h.credited k outcome hk)
    · rw [List.getElem?_append_right hlate] at hk
      obtain ⟨hends, hindex⟩ := h.eq_last_of_news hsound hk
      rw [Nat.add_sub_cancel' hlate] at hindex
      rw [hindex]
      exact hcredits (h.last outcome hends)
  case last => exact fun outcome houtcome => hcredits (h.last outcome houtcome)
  case latest =>
    intro outcome houtcome
    have hends : a.last = some outcome := hlast.symm.trans houtcome
    rw [hnews, hends]
    cases hshown : a.shown with
    | none => simp [RunOutcome.news]
    | some before =>
        obtain rfl : outcome = before := by simpa [hends] using h.steady before hshown
        simpa [RunOutcome.news] using h.latest outcome hshown
  case steady => exact fun outcome houtcome => .inr (hlast.symm.trans houtcome)

theorem snoc (h : Tallied a log) (hsound : a.Sound) (hpermits : a.Permits note) :
    Tallied (a.note note) (log ++ [note]) := by
  have hstill (hplain : Plain note) {a' : Account} (hsame : a' = { a with
      call := a'.call
      meant := a'.meant
      delivered := a'.delivered
      asked := a'.asked
      taken := a'.taken
      request := a'.request
      lines := a'.lines
      content := a'.content }) : Tallied a' (log ++ [note]) := by
    rw [hsame]
    exact h.plain hplain ⟨rfl, rfl, rfl, rfl⟩ (fun _ hw => hw) h.live h.gone fun hlt => ⟨hlt, rfl⟩
  cases note with
  | called call => exact hstill ⟨rfl, fun _ => rfl, rfl, (by rintro _ ⟨⟩)⟩ rfl
  | replied result => exact hstill ⟨rfl, fun _ => rfl, rfl, (by rintro _ ⟨⟩)⟩ rfl
  | said worker event =>
      rw [Account.note, Account.said_eq]
      exact hstill ⟨rfl, fun _ => rfl, rfl, (by rintro _ ⟨⟩)⟩ rfl
  | ended worker request result =>
      rw [Account.note, Account.ended_eq]
      exact hstill ⟨rfl, fun _ => rfl, rfl, (by rintro _ ⟨⟩)⟩ rfl
  | showed session => exact h.showed hsound hpermits.2
  | heard worker heard =>
      obtain ⟨-, hlive, hshown, hexpects⟩ := hpermits
      by_cases hrun : ∃ success output error, heard = .event (.run success output error)
      · obtain ⟨success, output, error, rfl⟩ := hrun
        exact h.heardRun hsound hlive hshown hexpects
      · exact h.heardOther fun success output error heq => hrun ⟨success, output, error, heq⟩
  | did done =>
      have hmay := hpermits.2
      cases done with
      | wrote content answer =>
          rcases answer with cause | ⟨⟨⟩⟩
          · exact hstill ⟨rfl, fun _ => rfl, rfl, (by rintro _ ⟨⟩)⟩ rfl
          · cases content <;> exact hstill ⟨rfl, fun _ => rfl, rfl, (by rintro _ ⟨⟩)⟩ rfl
      | spawned answer =>
          rcases answer with cause | ⟨⟨⟩⟩
          · exact hstill ⟨rfl, fun _ => rfl, rfl, (by rintro _ ⟨⟩)⟩ rfl
          · exact h.spawned
      | posted worker command answer =>
          rcases answer with cause | ⟨⟨⟩⟩
          · refine hstill ⟨?_, fun _ => rfl, rfl, (by rintro _ ⟨⟩)⟩ rfl
            cases command <;> rfl
          · cases command with
            | init setup => exact h.booted hsound hmay.1 hmay.2.1
            | run code => exact h.ran hsound hmay.1
      | terminated worker => exact h.released hsound hmay.1 hmay.2
      | discarded worker => exact h.discarded worker

end Tallied

theorem tallied_of_orderly {config : Config} {url : String} {log : List Note}
    (h : Orderly config url log) : Tallied (account config url log) log := by
  induction log using List.reverseRecOn with
  | nil => exact .new config url
  | append_singleton log note ih =>
      obtain ⟨hbefore, hpermits⟩ := Orderly.snoc.mp h
      rw [account_append]
      exact (ih hbefore).snoc hbefore.sound hpermits

variable {config : Config} {url : String}

theorem Dutiful.left {more : List Note} (h : Dutiful (log ++ more)) : Dutiful log :=
  fun before worker success output error after hlog =>
    h before worker success output error (after ++ more) (by rw [hlog, List.append_assoc]; rfl)

theorem dutiful_of_silent (hsilent : ∀ worker, answers worker log = []) : Dutiful log := by
  rintro before worker success output error after rfl
  have hnone := hsilent worker
  simp [answers, Note.answer?] at hnone

theorem Dutiful.answer (h : Dutiful log) {worker : Nat} {success : Bool}
    {output error : Option String} {more : List Note}
    (hwaits : (answers worker log).length < told worker log)
    (hmore : ∀ speaker, answers speaker more = []) :
    Dutiful (log ++ .heard worker (.event (.run success output error)) :: more) := by
  intro before speaker success' output' error' after hlog
  rcases List.append_eq_append_iff.mp hlog with ⟨between, rfl, hrest⟩ | ⟨between, rfl, hrest⟩
  · cases between with
    | nil =>
        obtain ⟨hsame, -⟩ := List.cons.inj hrest
        cases hsame
        simpa using hwaits
    | cons note between =>
        obtain ⟨-, rfl⟩ := List.cons.inj hrest
        have hnone := hmore speaker
        simp [answers, Note.answer?] at hnone
  · cases between with
    | nil =>
        obtain ⟨hsame, -⟩ := List.cons.inj hrest
        cases hsame
        simpa using hwaits
    | cons note between =>
        obtain ⟨rfl, -⟩ := List.cons.inj hrest
        exact h before speaker success' output' error' between rfl

theorem Dutiful.expects {more : List Note} {worker : Nat} {heard : Heard}
    (h : Dutiful (log ++ .heard worker heard :: more)) (htallied : Tallied a log)
    (hlive : a.live = some worker) : a.Expects heard := by
  obtain ⟨htold, hanswered⟩ := htallied.live worker hlive
  cases heard with
  | event event => cases event with
    | run success output error =>
        have hlt := h log worker success output error more rfl
        rw [htold, hanswered] at hlt
        exact hlt
    | _ => trivial
  | _ => trivial

theorem Course.orderly {stage : Stage} (h : Course config url log stage) (hdutiful : Dutiful log) :
    Orderly config url log ∧ stage.Suits (account config url log) := by
  induction h with
  | new => exact ⟨trivial, new_clear config url, rfl, rfl⟩
  | @step log more stage stage' h hgoes ih =>
      obtain ⟨horderly, hsuits⟩ := ih hdutiful.left
      rw [Orderly.append, account_append]
      obtain ⟨hallows, hnext⟩ := hgoes.suits hsuits fun worker heard hhead hlive => by
        obtain ⟨after, rfl⟩ := List.head?_eq_some_iff.mp hhead
        exact hdutiful.expects (tallied_of_orderly horderly) hlive
      exact ⟨⟨horderly, hallows⟩, hnext⟩

/-- A session that shows itself agrees with its account, and has shown how its last run ended. -/
theorem Course.visible {stage : Stage} (h : Course config url log stage) (hdutiful : Dutiful log)
    {session : Session} (hsession : stage.session? = some session) :
    session.Clear (account config url log) ∧
      (account config url log).shown = (account config url log).last := by
  have hsuits := (h.orderly hdutiful).2
  cases stage with
  | resting _ =>
      obtain rfl := Option.some.inj hsession
      exact ⟨hsuits.1, hsuits.2.2⟩
  | acting move => cases hsession
  | listening _ goal =>
      obtain rfl := Option.some.inj hsession
      exact ⟨hsuits.1, hsuits.2.2.2⟩

/-- There is one outcome for each text submitted, but for the one that is running; the session
tells the latest unless a text is running; and each belongs to the text with its number, as the
reply of the worker that was told to run this text or because the session let go of it. -/
theorem outcome_of_each_submission {stage : Stage} (h : Course config url log stage)
    (hdutiful : Dutiful log) :
    (∀ session, stage.session? = some session →
      (submissions log).length =
          (outcomes log).length + (if session.isRunPending then 1 else 0) ∧
        (session.lastRun = none ↔ session.isRunPending = true ∨ submissions log = []) ∧
        session.lastRun = if session.isRunPending then none else (outcomes log).getLast?) ∧
      ∀ k outcome, (outcomes log)[k]? = some outcome → Credits log k outcome := by
  have htallied := tallied_of_orderly (h.orderly hdutiful).1
  refine ⟨fun session hsession => ?_, htallied.credited⟩
  obtain ⟨hclear, hshown⟩ := h.visible hdutiful hsession
  have hagrees := hclear.agrees
  have hpending := hagrees.isRunPending hclear.sound
  have htally := hclear.sound.tally
  have hlast := hclear.sound.last
  have hsubmits := htallied.submits
  have houtcomes := htallied.outcomes
  have hempty : submissions log = [] ↔ (account config url log).submits = 0 := by
    rw [hsubmits, List.length_eq_zero_iff]
  have hnone : session.lastRun = none ↔ session.isRunPending = true ∨ submissions log = [] := by
    rw [hagrees.last, hlast, hpending, hempty]
  rw [if_neg (by simp [hshown]), Nat.add_zero] at htally
  refine ⟨?_, hnone, ?_⟩
  · rw [← hsubmits, ← houtcomes, ← htally]
    cases hrunning : session.isRunPending with
    | true =>
        have hlt := hpending.mp hrunning
        have hruns := hclear.sound.runs_le_submits
        simp only [hlast.mpr (.inl hlt), true_and, if_true]
        rw [if_pos (by omega)]
    | false =>
        have hidle : ¬ (account config url log).replies < (account config url log).runs := by
          simp [← hpending, hrunning]
        rw [if_neg fun hno => hno.2 ((hlast.mp hno.1).resolve_left hidle)]
        rfl
  · split
    · rename_i hrunning
      exact hnone.mpr (.inl hrunning)
    · rename_i hidle
      cases hends : session.lastRun with
      | none =>
          have hnothing := (hnone.mp hends).resolve_left hidle
          have hzero : (outcomes log).length = 0 := by
            have := hempty.mp hnothing
            omega
          rw [List.length_eq_zero_iff.mp hzero]
          rfl
      | some outcome =>
          exact (htallied.latest outcome (hshown.trans (hagrees.last.symm.trans hends))).symm

/-- A session whose first text is run and answered by its worker. -/
theorem outcome_of_first_submission :
    ∃ log stage, Course .default "memory://0" log stage ∧ Dutiful log ∧
      submissions log = [(0, "1 + 1")] ∧ outcomes log = [.completed (some "2")] ∧
      Credits log 0 (.completed (some "2")) := by
  have submitted := course_started.step (.call _ (.submit "1 + 1"))
  have posted := submitted.step (.deed (.post (.ok ())))
  have polled := posted.step (.call _ .poll)
  have answered := polled.step (.hear rfl (.event (.runOk (some "2"))))
  refine ⟨_, _, answered, ?dutiful, rfl, rfl,
    (outcome_of_each_submission answered ?dutiful).2 0 _ rfl⟩
  exact (dutiful_of_silent fun _ => rfl).answer Nat.zero_lt_one fun _ => rfl

end Session
end ScriptConsole
