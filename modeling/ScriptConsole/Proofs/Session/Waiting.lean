import Mathlib.Data.List.Induction
import ScriptConsole.Proofs.Session.Answering
import ScriptConsole.Proofs.Session.Lookout
import ScriptConsole.Proofs.Session.Mailbox
import ScriptConsole.Proofs.Session.Writes

/-!
Waiting for the worker without a limit. The session takes what the worker has said one by one,
until no text runs or a request for a line is open that the user was not told of; it never takes
more than that. Which request that is can be read off the log.
-/

namespace ScriptConsole

/-- The event that was heard, if one was. -/
def Note.event? : Note → Option Event
  | .heard _ (.event event) => some event
  | _ => none

/-! ### What holds since a note -/

theorem forall_splits_concat {p : List Note → Note → Prop} {notes : List Note} {last : Note} :
    (∀ early note late, notes ++ [last] = early ++ note :: late → p early note) ↔
      (∀ early note late, notes = early ++ note :: late → p early note) ∧ p notes last := by
  constructor
  · intro h
    refine ⟨fun early note late hnotes => ?_, h notes last [] rfl⟩
    refine h early note (late ++ [last]) ?_
    rw [hnotes, List.append_assoc, List.cons_append]
  · rintro ⟨hnotes, hlast⟩ early note late hsplit
    rcases List.eq_nil_or_concat late with rfl | ⟨late, final, rfl⟩
    · obtain ⟨rfl, hsame⟩ := List.append_inj' hsplit rfl
      obtain rfl := (List.cons.inj hsame).1
      exact hlast
    · rw [List.concat_eq_append, ← List.cons_append, ← List.append_assoc] at hsplit
      exact hnotes early note late (List.append_inj_left' hsplit rfl)

theorem Since.exists_start {start : Note → Prop} {goes : List Note → Note → Prop}
    {before after : List Note} {note : Note} (h : Since start goes (before ++ note :: after))
    (hother : ¬ start note) (hgoes : ¬ goes before note) : ∃ later ∈ after, start later := by
  induction after using List.reverseRecOn with
  | nil =>
      rcases since_snoc.mp h with hstart | ⟨-, hgone⟩
      · exact absurd hstart hother
      · exact absurd hgone hgoes
  | append_singleton after final ih =>
      rw [← List.cons_append, ← List.append_assoc, since_snoc] at h
      rcases h with hstart | ⟨hsince, -⟩
      · exact ⟨final, List.mem_concat_self, hstart⟩
      · obtain ⟨later, hmem, hstart⟩ := ih hsince
        exact ⟨later, List.mem_append_left [final] hmem, hstart⟩

theorem Note.startsRun_iff (note : Note) : note.startsRun = true ↔ note.IsRun := by
  unfold startsRun
  split
  · exact iff_of_true rfl trivial
  · next hother =>
    refine iff_of_false Bool.false_ne_true fun hrun => ?_
    unfold IsRun at hrun
    split at hrun
    · exact hother _ _ _ rfl
    · exact hrun

theorem Note.endsRun_iff (note : Note) : note.endsRun = true ↔ note.EndsRun := by
  unfold endsRun
  split
  · exact iff_of_true rfl trivial
  · exact iff_of_true rfl trivial
  · next hheard hdid =>
    refine iff_of_false Bool.false_ne_true fun hends => ?_
    unfold EndsRun at hends
    split at hends
    · exact hheard _ _ _ _ rfl
    · exact hdid _ rfl
    · exact hends

theorem Lookout.running_ofLog_iff (log : List Note) :
    (ofLog log).running = true ↔ Session.Running log := by
  induction log using List.reverseRecOn with
  | nil => exact iff_of_false Bool.false_ne_true not_since_nil
  | append_singleton log last ih =>
      rw [Session.Running, since_snoc, ← last.startsRun_iff, ← last.endsRun_iff,
        ← Session.Running, ← ih, ofLog_concat, note]
      simp [and_comm]

namespace Session

instance (log : List Note) : Decidable (Running log) :=
  decidable_of_iff _ (Lookout.running_ofLog_iff log)

/-- The request for a line that was heard last, with this prompt, is open, and the user was not
told of it. -/
def Outstanding (log : List Note) (prompt : Option String) : Prop :=
  Since (·.opens? = some prompt) (fun log note => note.closes (Running log) = false) log

/-- There is nothing to wait for. -/
def Due (log : List Note) : Prop :=
  ¬ Running log ∨ ∃ prompt, Outstanding log prompt

end Session

theorem Note.closes_of_opens {note : Note} {prompt : Option String}
    (hopens : note.opens? = some prompt) (running : Bool) : note.closes running = true := by
  unfold opens? at hopens
  split at hopens
  · rfl
  · cases hopens

theorem Lookout.asked_ofLog_iff (log : List Note) (prompt : Option String) :
    (ofLog log).asked = some prompt ↔ Session.Outstanding log prompt := by
  induction log using List.reverseRecOn with
  | nil => exact iff_of_false (by rintro ⟨⟩) not_since_nil
  | append_singleton log last ih =>
      have hnext : Session.Outstanding (log ++ [last]) prompt ↔ last.opens? = some prompt ∨
          Session.Outstanding log prompt ∧ last.closes (Session.Running log) = false :=
        since_snoc
      have hrunning : decide (Session.Running log) = (ofLog log).running :=
        Bool.eq_iff_iff.mpr (decide_eq_true_iff.trans (running_ofLog_iff log).symm)
      rw [hnext, ← ih, hrunning, ofLog_concat, note]
      cases hopens : last.opens? with
      | none => cases hsettles : last.closes (ofLog log).running <;> simp
      | some shown => simp [Note.closes_of_opens hopens]

namespace Session

/-- How a wait without a limit ends, given all that was noted until then. -/
inductive WaitEnds (log : List Note) : Turn × Session → Mailbox → Prop where
  | asked {prompt : Option String} {session : Session} {left : Mailbox}
      (hasked : Outstanding log prompt) :
      WaitEnds log (.reply (.ok (.waited (.awaitingInput prompt))), session) left
  | idle {session : Session} {left : Mailbox} (hnone : ∀ prompt, ¬ Outstanding log prompt)
      (hidle : ¬ Running log) (hpending : session.pending = none) :
      WaitEnds log (.reply (.ok (.waited .idle)), session) left
  | silence {session : Session} (hdue : ¬ Due log) (hpending : session.pending = some .run) :
      WaitEnds log (.listen (.wait none), session) ⟨[], false⟩
  | gone {before : List Note} {worker : Nat} {session : Session}
      (hlog : log = before ++ [.heard worker .gone, .did (.terminated worker)])
      (hdue : ¬ Due before) (hphase : session.phase = .uninitialized)
      (hpending : session.pending = none)
      (hlast : session.lastRun = some (.failed TransportError.disconnected.message)) :
      WaitEnds log (.reply (.error (.transport .disconnected)), session) ⟨[], true⟩

/-- From what was in the mailbox the session has taken just what was to be taken. -/
structure Taken (log : List Note) (box : Mailbox) (notes : List Note) (left : Mailbox) : Prop where
  closed : left.closed = box.closed
  events : box.events = notes.filterMap Note.event? ++ left.events
  /-- Whenever an event was taken there was something to wait for. -/
  needed : ∀ early note late, notes = early ++ note :: late → note.event? ≠ none →
    ¬ Due (log ++ early)

variable {session : Session} {log notes : List Note} {box : Mailbox} {events : List Event}
  {closed : Bool} {worker : Nat}

theorem taken_nothing (log : List Note) (box : Mailbox) : Taken log box [] box := by
  refine ⟨rfl, rfl, fun early note late hnil => ?_⟩
  exact absurd hnil.symm (List.append_ne_nil_of_right_ne_nil _ (List.cons_ne_nil _ _))

theorem Taken.event {event : Event} (h : Taken log box notes ⟨event :: events, closed⟩)
    (hdue : ¬ Due (log ++ notes)) (worker : Nat) :
    Taken log box (notes ++ [.heard worker (.event event)]) ⟨events, closed⟩ := by
  refine ⟨h.closed, ?_, forall_splits_concat.mpr ⟨h.needed, fun _ => hdue⟩⟩
  rw [h.events, List.filterMap_append, List.append_assoc]
  rfl

theorem Taken.other {left : Mailbox} (h : Taken log box notes left) {note : Note}
    (hother : note.event? = none) : Taken log box (notes ++ [note]) left := by
  refine ⟨h.closed, ?_, forall_splits_concat.mpr ⟨h.needed, fun hevent => absurd hother hevent⟩⟩
  rw [h.events, List.filterMap_append, List.filterMap_cons_none hother, List.filterMap_nil,
    List.append_nil]

theorem Settled.exists_take (h : session.Settled) (hlive : session.live = some worker)
    (event : Event) : ∃ taken : Session, (session.take event).ClearsAtMost taken ∧
      taken.Settled ∧ taken.lookout = session.lookout.note (.heard worker (.event event)) := by
  cases event with
  | init success error =>
      rw [Session.take, takeBoot, if_neg h.booted.2]
      exact ⟨session, .nothing, h, rfl⟩
  | run success output error =>
      obtain ⟨hsettled, -⟩ := h.takeRun success output error
      exact ⟨_, .nothing, hsettled, session.takeRun_lookout worker success output error⟩
  | stdout text => exact ⟨_, .nothing, h.print .output text, rfl⟩
  | stderr text => exact ⟨_, .nothing, h.print .error text, rfl⟩
  | input request prompt =>
      have hheld : session.live ≠ none := by
        rw [hlive]
        rintro ⟨⟩
      obtain ⟨hsettled, -⟩ := h.openRequest hheld request prompt
      exact ⟨_, .clears, hsettled, session.openRequest_lookout worker request prompt⟩

/-- A session that knows what the log tells says at once what is due, or listens for it. -/
theorem Settled.awaitQuiet_cases (h : session.Settled) (hlookout : session.lookout = .ofLog log)
    (limit : Option Duration) :
    (∃ (prompt : Option String) (left : Session), Outstanding log prompt ∧
      session.awaitQuiet limit = left.reply (.waited (.awaitingInput prompt))) ∨
    ((∀ prompt, ¬ Outstanding log prompt) ∧ ¬ Running log ∧ session.pending = none ∧
      session.awaitQuiet limit = session.reply (.waited .idle)) ∨
    ∃ worker, ¬ Due log ∧ session.pending = some .run ∧ session.live = some worker ∧
      session.awaitQuiet limit = .done (.listen (.wait limit), session) := by
  have hrunning : session.isRunPending = true ↔ Running log := by
    rw [← Lookout.running_ofLog_iff, ← hlookout]
    rfl
  have hasked (prompt : Option String) :
      session.lookout.asked = some prompt ↔ Outstanding log prompt := by
    rw [hlookout, Lookout.asked_ofLog_iff]
  rw [Session.awaitQuiet]
  cases hannounce : session.announce && session.isAwaitingInput with
  | true =>
      refine .inl ⟨session.prompt, _, (hasked _).mp ?_, rfl⟩
      rw [lookout, hannounce]
      rfl
  | false =>
      have hnone (prompt : Option String) : ¬ Outstanding log prompt := by
        rw [← hasked, lookout, hannounce]
        rintro ⟨⟩
      cases hpending : session.pending with
      | none =>
          refine .inr (.inl ⟨hnone, ?_, rfl, rfl⟩)
          rw [← hrunning, isRunPending, hpending]
          rintro ⟨⟩
      | some pending =>
          obtain rfl : pending = .run := by
            cases pending with
            | init => exact absurd hpending h.booted.2
            | run => rfl
          have hrun : Running log := by
            rw [← hrunning, isRunPending, hpending]
            rfl
          obtain ⟨worker, hlive⟩ := Option.ne_none_iff_exists'.mp (h.ready.mp (h.run hpending))
          refine .inr (.inr ⟨worker, ?_, rfl, hlive, ?_⟩)
          · rintro (hidle | ⟨prompt, houtstanding⟩)
            · exact hidle hrun
            · exact hnone prompt houtstanding
          · rw [Session.listen, hlive]
            rfl

/-- What a wait comes to that has taken these events. -/
def Waited (log : List Note) (box : Mailbox) (notes : List Note) (stand : Turn × Session)
    (left : Mailbox) : Prop :=
  Taken log box notes left ∧ WaitEnds (log ++ notes) stand left

theorem Settled.awaitQuiet_comes_of {left : Mailbox} (h : session.Settled)
    (hlookout : session.lookout = .ofLog (log ++ notes)) (htaken : Taken log box notes left)
    (hlisten : ∀ worker, ¬ Due (log ++ notes) → session.pending = some .run →
      session.live = some worker →
      Move.Comes (Waited log box) notes left (.done (.listen (.wait none), session))) :
    (session.awaitQuiet none).Comes (Waited log box) notes left := by
  rcases h.awaitQuiet_cases hlookout none with
    ⟨prompt, last, hasked, hwait⟩ | ⟨hnone, hidle, hpending, hwait⟩ |
      ⟨worker, hdue, hpending, hlive, hwait⟩
  · rw [hwait]
    exact .reply ⟨htaken, .asked hasked⟩
  · rw [hwait]
    exact .reply ⟨htaken, .idle hnone hidle hpending⟩
  · rw [hwait]
    exact hlisten worker hdue hpending hlive

theorem Settled.awaitQuiet_comes (h : session.Settled)
    (hlookout : session.lookout = .ofLog (log ++ notes))
    (htaken : Taken log box notes ⟨events, closed⟩) :
    (session.awaitQuiet none).Comes (Waited log box) notes ⟨events, closed⟩ := by
  induction events generalizing session notes with
  | nil =>
      refine h.awaitQuiet_comes_of hlookout htaken fun worker hdue hpending hlive => ?_
      cases closed with
      | false =>
          refine .silence ?_ ⟨htaken, .silence hdue hpending⟩
          rw [hlive]
          rintro ⟨⟩
      | true =>
          have hleft : (session.abandon fun _ => .disconnected).lastRun =
              some (.failed TransportError.disconnected.message) := by
            rw [abandon, if_pos hpending]
          have hlog : log ++ (notes ++ [.heard worker .gone] ++ [.did (.terminated worker)]) =
              (log ++ notes) ++ [.heard worker .gone, .did (.terminated worker)] := by
            simp only [List.append_assoc, List.cons_append, List.nil_append]
          refine .gone hlive (giveUp_comes hlive ⟨(htaken.other rfl).other rfl, ?_⟩)
          refine .gone hlog hdue ?_ ?_ hleft
          · rw [abandon, if_pos hpending]
          · rw [abandon, if_pos hpending]
  | cons event events ih =>
      refine h.awaitQuiet_comes_of hlookout htaken fun worker hdue hpending hlive => ?_
      obtain ⟨taken, hclears, hsettled, hknows⟩ := h.exists_take hlive event
      refine .event hlive (hclears.comes fun more hmore => ?_)
      have hheard := htaken.event hdue worker
      rcases hmore with rfl | ⟨answer, rfl⟩
      · rw [List.append_nil]
        refine ih hsettled ?_ hheard
        rw [hknows, hlookout, ← List.append_assoc, Lookout.ofLog_concat]
      · refine ih hsettled ?_ (hheard.other rfl)
        rw [hknows, hlookout, ← List.append_assoc, ← List.append_assoc, Lookout.ofLog_concat,
          Lookout.ofLog_concat]
        rfl

/-- A wait without a limit is exact. Whatever its worker has said by then, it takes just as much of
it as is needed: it goes on only while a text runs and no request is open that the user was not
told of. Then it tells of such a request, or that nothing runs any more; if the worker is no more,
the run has failed and the session has let go of its worker; and if the worker falls silent, it
waits on. Whatever was asked of the session before, every request that it has told of was open and
had not been told of, so a line had not been written for it and its run had not ended; and between
two that it told of another request was heard. -/
theorem wait_is_exact {config : Config} {url : String}
    (h : Course config url log (.resting session)) :
    (∀ box, (session.call (.wait none)).Comes (Waited (log ++ [.called (.wait none)]) box) []
      box) ∧
    (∀ before prompt after,
      log = before ++ .replied (.ok (.waited (.awaitingInput prompt))) :: after →
        Outstanding before prompt) ∧
    ∀ before prompt between next after,
      log = before ++ .replied (.ok (.waited (.awaitingInput prompt))) :: between ++
          .replied (.ok (.waited (.awaitingInput next))) :: after →
        ∃ note ∈ between, note.opens? = some next := by
  obtain ⟨hlookout, hreports⟩ := h.watches
  have hreported (before : List Note) (prompt : Option String) (after : List Note)
      (hlog : log = before ++ .replied (.ok (.waited (.awaitingInput prompt))) :: after) :
      Outstanding before prompt := by
    rw [hlog] at hreports
    obtain ⟨-, hreport, -⟩ := Stage.reports_append.mp hreports
    exact (Lookout.asked_ofLog_iff before prompt).mp (hreport prompt rfl)
  refine ⟨?_, hreported, ?_⟩
  · rintro ⟨events, closed⟩
    refine h.settled.awaitQuiet_comes ?_ (taken_nothing _ _)
    rw [List.append_nil, Lookout.ofLog_concat]
    exact hlookout
  · intro before prompt between next after hlog
    exact Since.exists_start (hreported _ next after hlog) (by rintro ⟨⟩) (by rintro ⟨⟩)

/-- A poll hears of a request and tells nobody, and then the answer to it cannot be written. -/
theorem exists_polled : ∃ log polled session,
    Course .default "memory://0" log (.resting polled) ∧ Running log ∧
    Outstanding log (some "name? ") ∧
    Course .default "memory://0"
      (log ++ [.called (.deliver "bob"), .showed polled, .heard 0 .quiet,
        .did (.wrote (.line 0 0 "bob") (.error (.io (.other "disk full")))),
        .replied (.error (.buffer (.io (.other "disk full")))), .showed session])
      (.resting session) ∧
    session.live = some 0 ∧ session.pending = some .run ∧ session.isAwaitingInput = false := by
  have submitted := course_started.step (.call _ (.submit "input('name? ')"))
  have running := submitted.step (.deed (.post (.ok ())))
  have polling := running.step (.call _ .poll)
  have asked := polling.step (.hear rfl (.event (.input 0 (some "name? "))))
  have reset := asked.step (.deed (.write (.ok ())))
  have polled := reset.step (.hear rfl .quiet)
  have answering := polled.step (.call _ (.deliver "bob"))
  have trying := answering.step (.hear rfl .quiet)
  have failed := trying.step (.deed (.write (.error (.io (.other "disk full")))))
  have hjoin (log first second third : List Note) :
      log ++ first ++ second ++ third = log ++ (first ++ (second ++ third)) := by
    rw [List.append_assoc, List.append_assoc]
  refine ⟨_, _, _, polled, ?_, ?_, (congrArg (Course _ _ · _) (hjoin _ _ _ _)).mp failed,
    rfl, rfl, rfl⟩
  · exact (Lookout.running_ofLog_iff _).mp rfl
  · exact (Lookout.asked_ofLog_iff _ _).mp rfl

/-- The wait tells of the request that the poll has heard of, and the end of the run stays in the
mailbox. -/
theorem wait_is_exact_after_poll : ∃ log session,
    Course .default "memory://0" log (.resting session) ∧ Running log ∧
    Outstanding log (some "name? ") ∧
    (session.call (.wait none)).Comes
      (Waited (log ++ [.called (.wait none)]) ⟨[.runOk none], true⟩) [] ⟨[.runOk none], true⟩ := by
  obtain ⟨log, session, -, hcourse, hrunning, hasked, -⟩ := exists_polled
  exact ⟨log, session, hcourse, hrunning, hasked, (wait_is_exact hcourse).1 _⟩

/-- A request that nobody was told of is still open when the answer to it could not be written, and
its run goes on; but a wait does not tell of it, and learns that the worker is no more. -/
theorem failed_answer_hides_request : ∃ log polled session,
    Running log ∧ Outstanding log (some "name? ") ∧
    Course .default "memory://0"
      (log ++ [.called (.deliver "bob"), .showed polled, .heard 0 .quiet,
        .did (.wrote (.line 0 0 "bob") (.error (.io (.other "disk full")))),
        .replied (.error (.buffer (.io (.other "disk full")))), .showed session])
      (.resting session) ∧
    (session.call (.wait none)).Comes
      (fun notes stand _ => notes = [.heard 0 .gone, .did (.terminated 0)] ∧
        stand.1 = .reply (.error (.transport .disconnected))) [] ⟨[], true⟩ := by
  obtain ⟨log, polled, session, -, hrunning, hasked, hcourse, hlive, hpending, hquiet⟩ :=
    exists_polled
  have hwait : session.call (.wait none) = .done (.listen (.wait none), session) := by
    rw [call, awaitQuiet, hquiet, Bool.and_false, if_neg Bool.false_ne_true, hpending, listen,
      hlive]
    rfl
  refine ⟨log, polled, session, hrunning, hasked, hcourse, ?_⟩
  rw [hwait]
  exact .gone hlive (giveUp_comes hlive ⟨rfl, rfl⟩)

end Session
end ScriptConsole
