import ScriptConsole.Proofs.Session.Failures
import ScriptConsole.Proofs.Session.Requests

/-!
What a session writes to the shared buffer, whatever its workers say. Lines are numbered in order
over all workers, each answers the request for input that was heard last and that nothing has
ended since, and a buffer that was closed stays so until the next worker is spawned.
-/

namespace ScriptConsole

/-- Something happened, and every note since goes with it. Whether a note does may depend on the
notes before it. -/
inductive Since (start : Note → Prop) (goes : List Note → Note → Prop) : List Note → Prop where
  | here {log : List Note} {note : Note} (h : start note) : Since start goes (log ++ [note])
  | still {log : List Note} {note : Note} (h : Since start goes log) (hgoes : goes log note) :
      Since start goes (log ++ [note])

theorem since_snoc {start : Note → Prop} {goes : List Note → Note → Prop} {log : List Note}
    {note : Note} :
    Since start goes (log ++ [note]) ↔ start note ∨ Since start goes log ∧ goes log note := by
  constructor
  · generalize hlog : log ++ [note] = full
    intro h
    cases h with
    | here h =>
        obtain ⟨-, hnote⟩ := List.append_inj' hlog rfl
        obtain rfl := List.singleton_inj.mp hnote
        exact .inl h
    | still h hgoes =>
        obtain ⟨rfl, hnote⟩ := List.append_inj' hlog rfl
        obtain rfl := List.singleton_inj.mp hnote
        exact .inr ⟨h, hgoes⟩
  · rintro (h | ⟨h, hgoes⟩)
    · exact .here h
    · exact .still h hgoes

theorem Since.before {start : Note → Prop} {goes : List Note → Note → Prop} {log : List Note}
    {note : Note} (h : Since start goes (log ++ [note])) (hstart : ¬ start note) :
    Since start goes log :=
  ((since_snoc.mp h).resolve_left hstart).1

theorem not_since_nil {start : Note → Prop} {goes : List Note → Note → Prop} :
    ¬ Since start goes [] := by
  generalize hlog : ([] : List Note) = log
  intro h
  cases h with
  | here h => exact List.append_ne_nil_of_right_ne_nil _ (List.cons_ne_nil _ _) hlog.symm
  | still h hgoes => exact List.append_ne_nil_of_right_ne_nil _ (List.cons_ne_nil _ _) hlog.symm

namespace Note

def IsRun : Note → Prop
  | did (.posted _ (.run _) (.ok _)) => True
  | _ => False

/-- A run that was pending is so no more. -/
def EndsRun : Note → Prop
  | heard _ (.event (.run _ _ _)) | did (.terminated _) => True
  | _ => False

def Asks (request : UInt64) : Note → Prop
  | heard _ (.event (.input asked _)) => asked = request
  | _ => False

def IsClosing : Note → Prop
  | did (.wrote .closed (.ok _)) => True
  | _ => False

/-- A worker was spawned, or was to be. -/
def IsAttempt : Note → Prop
  | did (.spawned _) => True
  | _ => False

end Note

namespace Session

/-- A text was posted to the worker, which has neither replied nor been let go of. -/
def Running (log : List Note) : Prop :=
  Since Note.IsRun (fun _ note => ¬ note.EndsRun) log

/-- The note ends the request for input that is open: another one is heard, a line is written, the
pending run has ended, or the session is started again or torn down. -/
def Ends (log : List Note) : Note → Prop
  | .heard _ (.event (.input _ _)) | .did (.wrote (.line _ _ _) (.ok _)) => True
  | .heard _ (.event (.run _ _ _)) => Running log
  | .called .start | .called (.runSource _ (.ok _)) | .called .teardown => True
  | .did (.terminated _) | .did (.spawned _) => True
  | _ => False

/-- The request was heard, and nothing has ended it since. -/
def Asking (request : UInt64) (log : List Note) : Prop :=
  Since (Note.Asks request) (fun log note => ¬ Ends log note) log

/-- The buffer was closed, and no worker was to be spawned since. -/
def Shut (log : List Note) : Prop :=
  Since Note.IsClosing (fun _ note => ¬ note.IsAttempt) log

/-- The numbers of the lines that were written, in order. -/
def lineNumbers (log : List Note) : List UInt64 :=
  (written log).filterMap fun
    | .line _ sequence _ => some sequence
    | .empty | .closed => none

/-- What a session knows of the notes so far, though its request for input may have ended. -/
structure Lasts (session : Session) (log : List Note) : Prop where
  sequence : session.sequence = UInt64.ofNat (lines log)
  running : Running log → session.live ≠ none
  shut : Shut log → session.live = none ∧ (written log).getLast? = some .closed

/-- What a session knows of the notes so far when it rests or listens. -/
structure Abides (session : Session) (log : List Note) : Prop extends Lasts session log where
  request : ∀ request, session.request = some request → Asking request log
  held : session.request ≠ none → session.live ≠ none
  pending : Running log → session.pending = some .run

/-- A monitor that keeps all notes and sees to the lines that are written. -/
def discipline : Monitor (List Note) where
  note log note := log ++ [note]
  May log done := ∀ request sequence text answer,
    done = .wrote (.line request sequence text) answer →
      Asking request log ∧ sequence = UInt64.ofNat (lines log)
  Stands log stand := stand.2.Abides log

variable {session : Session} {log : List Note} {note : Note}

/-! ### What one more note changes -/

theorem lines_snoc (log : List Note) (note : Note) :
    lines (log ++ [note]) = lines log + if note.isLine then 1 else 0 := by
  rw [lines, lines, List.countP_append, List.countP_singleton]

theorem lines_other (hline : note.isLine = false) (log : List Note) :
    lines (log ++ [note]) = lines log := by
  rw [lines_snoc, hline]
  rfl

theorem written_snoc (hwritten : note.written? = none) (log : List Note) :
    written (log ++ [note]) = written log := by
  rw [written, written, List.filterMap_append, List.filterMap_cons_none hwritten,
    List.filterMap_nil, List.append_nil]

theorem isLine_of_written (hwritten : note.written? = none) : note.isLine = false := by
  rw [← Bool.not_eq_true]
  intro hline
  cases note with
  | did done =>
      cases done with
      | wrote content answer =>
          cases answer with
          | error cause => cases content <;> cases hline
          | ok _ => cases hwritten
      | _ => cases hline
  | _ => cases hline

theorem not_isClosing_of_written (hwritten : note.written? = none) : ¬ note.IsClosing := by
  cases note with
  | did done =>
      cases done with
      | wrote content answer =>
          cases answer with
          | error cause => cases content <;> exact id
          | ok _ => cases hwritten
      | _ => exact id
  | _ => exact id

theorem not_shut_snoc (hopen : ¬ Shut log) (hclosing : ¬ note.IsClosing) :
    ¬ Shut (log ++ [note]) :=
  fun hshut => hopen (hshut.before hclosing)

theorem Lasts.not_shut (h : session.Lasts log) (hlive : session.live ≠ none) : ¬ Shut log :=
  fun hshut => hlive (h.shut hshut).1

theorem Lasts.snoc (h : session.Lasts log) (hrun : ¬ note.IsRun) (hwritten : note.written? = none) :
    session.Lasts (log ++ [note]) := by
  constructor
  · rw [lines_other (isLine_of_written hwritten)]
    exact h.sequence
  · exact fun hrunning => h.running (hrunning.before hrun)
  · intro hshut
    rw [written_snoc hwritten]
    exact h.shut (hshut.before (not_isClosing_of_written hwritten))

theorem Abides.snoc (h : session.Abides log) (hends : ¬ Ends log note) (hrun : ¬ note.IsRun)
    (hwritten : note.written? = none) : session.Abides (log ++ [note]) := by
  refine ⟨h.toLasts.snoc hrun hwritten, ?_, h.held, ?_⟩
  · exact fun request hrequest => .still (h.request request hrequest) hends
  · exact fun hrunning => h.pending (hrunning.before hrun)

theorem Abides.alike (h : session.Abides log) {other : Session}
    (hsequence : other.sequence = session.sequence) (hrequest : other.request = session.request)
    (hlive : other.live = session.live) (hpending : other.pending = session.pending) :
    other.Abides log := by
  refine ⟨⟨?_, ?_, ?_⟩, ?_, ?_, ?_⟩
  · rw [hsequence]
    exact h.sequence
  · rw [hlive]
    exact h.running
  · rw [hlive]
    exact h.shut
  · rw [hrequest]
    exact h.request
  · rw [hrequest, hlive]
    exact h.held
  · rw [hpending]
    exact h.pending

/-! ### Letting go of workers -/

/-- A session that has no worker and waits for nothing. -/
structure Lacks (session : Session) (log : List Note) : Prop where
  sequence : session.sequence = UInt64.ofNat (lines log)
  request : session.request = none
  live : session.live = none
  running : ¬ Running log

theorem Lacks.abides (h : session.Lacks log)
    (hshut : Shut log → (written log).getLast? = some .closed) : session.Abides log := by
  refine ⟨⟨h.sequence, ?_, fun hclosed => ⟨h.live, hshut hclosed⟩⟩, ?_, ?_, ?_⟩
  · exact fun hrunning => absurd hrunning h.running
  · intro request hrequest
    rw [h.request] at hrequest
    cases hrequest
  · exact fun hopen => absurd h.request hopen
  · exact fun hrunning => absurd hrunning h.running

theorem abandon_sequence (session : Session) (reason : Pending → TransportError) :
    (session.abandon reason).sequence = session.sequence := by
  rw [abandon]
  split <;> rfl

theorem Lasts.letGo (h : session.Lasts log) {reason : Pending → TransportError}
    {next : Session → Move}
    (hnext : ∀ log, (session.abandon reason).Lacks log →
      (Shut log → (written log).getLast? = some .closed) →
        (next (session.abandon reason)).Passes discipline log) :
    Move.Passes discipline (session.letGo reason >>= next) log := by
  refine letGo_passes (fun hdead => ?_) fun worker hlive => ⟨?_, ?_⟩
  · refine hnext log ⟨?_, session.abandon_request reason, session.abandon_live reason, ?_⟩
      fun hshut => (h.shut hshut).2
    · rw [abandon_sequence]
      exact h.sequence
    · exact fun hrunning => h.running hrunning hdead
  · rintro request sequence text answer ⟨⟩
  · refine hnext _ ⟨?_, session.abandon_request reason, session.abandon_live reason, ?_⟩ ?_
    · rw [abandon_sequence]
      exact h.sequence.trans (congrArg UInt64.ofNat (lines_other rfl log).symm)
    · intro hrunning
      rcases since_snoc.mp hrunning with hrun | ⟨-, hgoes⟩
      · exact hrun
      · exact hgoes trivial
    · intro hshut
      -- There was a worker, so the buffer was not shut.
      rcases since_snoc.mp hshut with hclosing | ⟨hshut, -⟩
      · exact hclosing.elim
      · rw [(h.shut hshut).1] at hlive
        cases hlive

/-! ### Steps that moves are made of -/

theorem may_other {done : Done}
    (hother : ∀ request sequence text answer, done ≠ .wrote (.line request sequence text) answer) :
    discipline.May log done := by
  intro request sequence text answer hline
  exact absurd hline (hother request sequence text answer)

theorem Lasts.giveUp (h : session.Lasts log) (reason : Pending → TransportError)
    (error : SessionError) :
    Move.Passes discipline (do (← session.letGo reason).fail error) log :=
  h.letGo fun _ hlacks hshut => hlacks.abides hshut

theorem Abides.listen (h : session.Abides log) (goal : Listening) :
    (session.listen goal).Passes discipline log := by
  rw [Session.listen]
  split <;> exact h

theorem Abides.postRun (h : session.Abides log) (code : String) (result : Reply) :
    (session.postRun code result).Passes discipline log := by
  cases hlive : session.live with
  | none =>
      rw [Session.postRun, hlive]
      exact h
  | some worker =>
      rw [postRun_of_live hlive]
      intro answer
      refine ⟨may_other (by rintro _ _ _ _ ⟨⟩), ?_⟩
      rcases answer with cause | ⟨⟨⟩⟩
      · exact (h.toLasts.snoc id rfl).giveUp _ _
      · have hsome : session.live ≠ none := by
          rw [hlive]
          rintro ⟨⟩
        refine ⟨⟨?_, fun _ => hsome, ?_⟩, ?_, h.held, fun _ => rfl⟩
        · exact h.sequence.trans (congrArg UInt64.ofNat (lines_other rfl log).symm)
        · exact fun hshut => absurd hshut (not_shut_snoc (h.not_shut hsome) id)
        · exact fun request hrequest => .still (h.request request hrequest) id

theorem Abides.awaitBoot (h : session.Abides log) (next : AfterBoot) :
    (session.awaitBoot next).Passes discipline log := by
  rw [Session.awaitBoot]
  split
  · exact h.listen _
  · split
    · cases next with
      | reply => exact h
      | run code result => exact h.postRun code result
    · exact h

theorem Lacks.snoc (h : session.Lacks log) (hline : note.isLine = false) (hrun : ¬ note.IsRun) :
    session.Lacks (log ++ [note]) := by
  refine ⟨?_, h.request, h.live, ?_⟩
  · rw [lines_other hline]
    exact h.sequence
  · exact fun hrunning => h.running (hrunning.before hrun)

theorem Lacks.alike (h : session.Lacks log) {other : Session}
    (hsequence : other.sequence = session.sequence) (hrequest : other.request = session.request)
    (hlive : other.live = session.live) : other.Lacks log :=
  ⟨hsequence.trans h.sequence, hrequest.trans h.request, hlive.trans h.live, h.running⟩

theorem Lacks.booting (h : session.Lacks log) (hopen : ¬ Shut log) (worker : Nat) :
    (session.booting worker).Abides log := by
  refine ⟨⟨h.sequence, ?_, fun hshut => absurd hshut hopen⟩, ?_, ?_, ?_⟩
  · exact fun hrunning => absurd hrunning h.running
  · intro request hrequest
    exact absurd (h.request.symm.trans hrequest) (by rintro ⟨⟩)
  · exact fun hrequest => absurd h.request hrequest
  · exact fun hrunning => absurd hrunning h.running

theorem Lacks.told (h : session.Lacks log) (hopen : ¬ Shut log) (worker : Nat) (setup : Setup)
    (next : AfterBoot) :
    Move.Passes discipline (.post worker (.init setup) fun
      | .error cause => .discard worker fun () => session.fail (.transport cause)
      | .ok () => (session.booting worker).awaitBoot next) log := by
  intro answer
  refine ⟨may_other (by rintro _ _ _ _ ⟨⟩), ?_⟩
  have hopen' : ¬ Shut (log ++ [.did (.posted worker (.init setup) answer)]) :=
    not_shut_snoc hopen id
  have hnext : session.Lacks (log ++ [.did (.posted worker (.init setup) answer)]) :=
    h.snoc rfl (by cases answer <;> exact id)
  rcases answer with cause | ⟨⟨⟩⟩
  · refine ⟨may_other (by rintro _ _ _ _ ⟨⟩), ?_⟩
    refine (hnext.snoc rfl id).abides fun hshut => ?_
    exact absurd hshut (not_shut_snoc hopen' id)
  · exact (hnext.booting hopen' worker).awaitBoot next

/-- Once a worker was to be spawned nothing is said of the buffer, whether it was or not. -/
theorem Lacks.spawn (h : session.Lacks log) (next : AfterBoot) :
    (session.spawn next).Passes discipline log := by
  intro answer
  have hopen : ¬ Shut (log ++ [.did (.spawned answer)]) := by
    intro hshut
    rcases since_snoc.mp hshut with hclosing | ⟨-, hgoes⟩
    · exact hclosing
    · exact hgoes trivial
  have hnext : session.Lacks (log ++ [.did (.spawned answer)]) := h.snoc rfl id
  refine ⟨may_other (by rintro _ _ _ _ ⟨⟩), ?_⟩
  rcases answer with cause | ⟨⟨⟩⟩
  · exact hnext.abides fun hshut => absurd hshut hopen
  · have hborn : ({ session with spawned := session.spawned + 1 } : Session).Lacks _ :=
      hnext.alike rfl rfl rfl
    exact hborn.told hopen session.spawned _ next

theorem Lasts.launch (h : session.Lasts log) (next : AfterBoot) :
    (session.launch next).Passes discipline log := by
  refine h.letGo fun log hlacks hshut => ?_
  have hfresh : ({ (session.abandon .terminated).printRejection session.pending with
      bootError := none } : Session).Lacks log := by
    cases session.pending <;> exact hlacks.alike rfl rfl rfl
  intro answer
  refine ⟨may_other (by rintro _ _ _ _ ⟨⟩), ?_⟩
  rcases answer with cause | ⟨⟨⟩⟩
  · exact (hfresh.abides hshut).snoc id id rfl
  · exact (hfresh.snoc rfl id).spawn next

theorem Abides.submit (h : session.Abides log) (code : String) (result : Reply) :
    (session.submit code result).Passes discipline log := by
  rw [Session.submit]
  split
  · exact h
  · split
    · exact h.postRun code result
    · exact h.toLasts.launch _

theorem Lasts.teardown (h : session.Lasts log) : session.teardown.Passes discipline log := by
  refine h.letGo fun log hlacks hshut => ?_
  intro answer
  refine ⟨may_other (by rintro _ _ _ _ ⟨⟩), ?_⟩
  rcases answer with cause | ⟨⟨⟩⟩
  · exact (hlacks.abides hshut).snoc id id rfl
  · refine (hlacks.snoc rfl id).abides fun _ => ?_
    show (written (log ++ [_])).getLast? = _
    rw [written, List.filterMap_append]
    exact List.getLast?_concat

/-! ### Typed lines -/

theorem Abides.writeInput (h : session.Abides log) (text : String) (result : Reply) :
    (session.writeInput text result).Passes discipline log := by
  rw [Session.writeInput]
  cases hrequest : session.request with
  | none => exact h
  | some request =>
      have hasking := h.request request hrequest
      have hlive : session.live ≠ none := h.held (by rw [hrequest]; rintro ⟨⟩)
      intro answer
      refine ⟨?_, ?_⟩
      · rintro _ _ _ _ ⟨⟩
        exact ⟨hasking, h.sequence⟩
      · rcases answer with cause | ⟨⟨⟩⟩
        · exact h.snoc id id rfl
        · refine ⟨⟨?_, fun _ => hlive, ?_⟩, by rintro _ ⟨⟩, fun hnone => absurd rfl hnone, ?_⟩
          · show session.sequence + 1 = UInt64.ofNat (lines (log ++ [_]))
            rw [lines_snoc, h.sequence]
            exact (UInt64.ofNat_add (lines log) 1).symm
          · exact fun hshut => absurd hshut (not_shut_snoc (h.not_shut hlive) id)
          · exact fun hrunning => h.pending (hrunning.before id)

theorem Abides.takeLine (h : session.Abides log) (text : String) :
    (session.takeLine text).Passes discipline log := by
  rw [Session.takeLine]
  generalize session.statements.push text = pushed
  obtain ⟨outcome, statements⟩ := pushed
  have hnext : ({ session with statements } : Session).Abides log := h.alike rfl rfl rfl rfl
  cases outcome with
  | statement source =>
      let recorded : Session :=
        { session with
          statements
          history := session.history.push (String.ofList (Text.trim source.toList)) }
      have hrecorded : (recorded.print .input
          (String.ofList (Text.trimEnd source.toList))).Abides log :=
        h.alike rfl rfl rfl rfl
      exact hrecorded.submit source _
  | input line => exact hnext.writeInput line _
  | ignored => exact hnext
  | incomplete => exact hnext

theorem Abides.afterPoll (h : session.Abides log) (next : AfterPoll) :
    (session.afterPoll next).Passes discipline log := by
  cases next with
  | reply => exact h
  | line request text =>
      rw [Session.afterPoll]
      split
      · exact h.takeLine text
      · exact h
  | deliver request text =>
      rw [Session.afterPoll]
      split
      · have hnext : ({ session with statements := session.statements.setAwaitingInput false } :
            Session).Abides log := h.alike rfl rfl rfl rfl
        exact hnext.writeInput text _
      · exact h

theorem Abides.awaitSilence (h : session.Abides log) (next : AfterPoll) :
    (session.awaitSilence next).Passes discipline log := by
  rw [Session.awaitSilence]
  split
  · exact h.afterPoll next
  · exact h.listen _

theorem Abides.awaitQuiet (h : session.Abides log) (limit : Option Duration) :
    (session.awaitQuiet limit).Passes discipline log := by
  have hannounced : ({ session with announce := false } : Session).Abides log :=
    h.alike rfl rfl rfl rfl
  rw [Session.awaitQuiet]
  split
  · exact hannounced
  · split
    · exact h
    · exact h.listen _

/-! ### Calls and what is heard meanwhile -/

theorem Abides.call (h : session.Abides log) (call : Call) :
    (session.call call).Passes discipline (log ++ [.called call]) := by
  have hlasts : session.Lasts (log ++ [.called call]) := h.toLasts.snoc id rfl
  cases call with
  | start => exact hlasts.launch _
  | submit code => exact (h.snoc id id rfl).submit code _
  | line text =>
      have hcalled : session.Abides (log ++ [.called (.line text)]) := h.snoc id id rfl
      rw [Session.call, Session.line]
      split
      · exact hcalled.awaitSilence _
      · split
        · exact hcalled
        · exact hcalled.takeLine text
  | deliver text =>
      have hcalled : session.Abides (log ++ [.called (.deliver text)]) := h.snoc id id rfl
      rw [Session.call, Session.deliver]
      split
      · exact hcalled.awaitSilence _
      · exact hcalled
  | poll => exact (h.snoc id id rfl).awaitSilence _
  | wait limit => exact (h.snoc id id rfl).awaitQuiet limit
  | runSource name text =>
      cases text with
      | error cause => exact h.snoc id id rfl
      | ok code =>
          have hcleared : (({ session.clearConsole with statements := .empty } :
              Session).print .info initializing).Abides log := h.alike rfl rfl rfl rfl
          exact (hcleared.toLasts.snoc id rfl).launch _
  | teardown => exact hlasts.teardown

theorem Abides.takeBoot (h : session.Abides log) (success : Bool) (error : Option String)
    {next : Session → Move}
    (hnext : ∀ (log : List Note) (session : Session), session.Abides log →
      (next session).Passes discipline log) :
    Move.Passes discipline (session.takeBoot success error >>= next) log := by
  rw [Session.takeBoot]
  split
  · next hpending =>
    -- A worker that boots has not been told to run anything.
    have hidle : ¬ Running log := by
      intro hrunning
      rw [h.pending hrunning] at hpending
      cases hpending
    split
    · exact hnext log _ ⟨⟨h.sequence, h.running, h.shut⟩, h.request, h.held,
        fun hrunning => absurd hrunning hidle⟩
    · have hlasts : ({ session with
          pending := none
          bootError := some (error.getD unknownError) } : Session).Lasts log :=
        ⟨h.sequence, h.running, h.shut⟩
      exact hlasts.letGo fun log hlacks hshut => hnext log _ (hlacks.abides hshut)
  · exact hnext log session h

theorem Abides.takeRun (h : session.Abides log) (worker : Nat) (success : Bool)
    (output error : Option String) :
    (session.takeRun success output error).Abides
      (log ++ [.heard worker (.event (.run success output error))]) := by
  cases hpending : session.isRunPending with
  | true =>
      obtain ⟨transcript, lastRun, htaken⟩ := takeRun_pending hpending success output error
      have hlasts : session.Lasts (log ++ [.heard worker (.event (.run success output error))]) :=
        h.toLasts.snoc id rfl
      rw [htaken]
      refine ⟨⟨hlasts.sequence, hlasts.running, hlasts.shut⟩, by rintro _ ⟨⟩,
        fun hnone => absurd rfl hnone, ?_⟩
      intro hrunning
      rcases since_snoc.mp hrunning with hrun | ⟨-, hgoes⟩
      · exact hrun.elim
      · exact absurd trivial hgoes
  | false =>
      rw [takeRun_idle hpending]
      refine h.snoc ?_ id rfl
      intro hrunning
      rw [isRunPending, h.pending hrunning] at hpending
      cases hpending

theorem Abides.openRequest (h : session.Abides log) (hlive : session.live ≠ none) (worker : Nat)
    (request : UInt64) (prompt : Option String) (answer : Except BufferError Unit) :
    (session.openRequest request prompt).Abides
      (log ++ [.heard worker (.event (.input request prompt))] ++
        [.did (.wrote .empty answer)]) := by
  have hlasts : session.Lasts (log ++ [.heard worker (.event (.input request prompt))]) :=
    h.toLasts.snoc id rfl
  obtain ⟨transcript, hprint⟩ := session.exists_printSome .output prompt
  rw [Session.openRequest, hprint]
  refine ⟨⟨?_, fun _ => hlive, ?_⟩, ?_, fun _ => hlive, ?_⟩
  · rw [lines_other rfl]
    exact hlasts.sequence
  · exact fun hshut => absurd hshut (not_shut_snoc (hlasts.not_shut hlive) id)
  -- What was asked before is over, whether or not it was answered.
  · rintro asked ⟨⟩
    exact .still (.here rfl) id
  · exact fun hrunning => h.pending ((hrunning.before id).before id)

theorem Abides.resume (h : session.Abides log) (goal : Listening) :
    (session.resume goal).Passes discipline log := by
  cases goal with
  | boot next => exact h.awaitBoot next
  | wait limit => exact h.awaitQuiet limit
  | poll next => exact h.awaitSilence next

theorem Abides.expire (h : session.Abides log) (goal : Listening) :
    (session.expire goal).Passes discipline log := by
  cases goal with
  | boot next => exact h.toLasts.giveUp _ _
  | wait limit => exact h
  | poll next => exact h.afterPoll next

theorem Abides.hear (h : session.Abides log) {worker : Nat} (hlive : session.live = some worker)
    (goal : Listening) (heard : Heard) :
    (session.hear goal heard).Passes discipline (log ++ [.heard worker heard]) := by
  cases heard with
  | event event =>
      have hnext (log : List Note) (session : Session) (h : session.Abides log) := h.resume goal
      cases event with
      | init success error => exact (h.snoc id id rfl).takeBoot success error hnext
      | run success output error =>
          exact hnext _ _ (h.takeRun worker success output error)
      | stdout text =>
          have hprinted : (session.print .output text).Abides log := h.alike rfl rfl rfl rfl
          exact hnext _ _ (hprinted.snoc id id rfl)
      | stderr text =>
          have hprinted : (session.print .error text).Abides log := h.alike rfl rfl rfl rfl
          exact hnext _ _ (hprinted.snoc id id rfl)
      | input request prompt =>
          have hsome : session.live ≠ none := by
            rw [hlive]
            rintro ⟨⟩
          intro answer
          refine ⟨may_other (by rintro _ _ _ _ ⟨⟩), ?_⟩
          exact hnext _ _ (h.openRequest hsome worker request prompt answer)
  | quiet => exact (h.snoc id id rfl).expire goal
  | gone => exact (h.toLasts.snoc id rfl).giveUp _ _

end Session

/-! ### Courses -/

variable {log : List Note} {note : Note}

/-- Every line was written in good order, or it was tried. -/
def Disciplined (log : List Note) : Prop :=
  ∀ before done after, log = before ++ .did done :: after → Session.discipline.May before done

theorem Disciplined.snoc (h : Disciplined log)
    (hnote : ∀ done, note = .did done → Session.discipline.May log done) :
    Disciplined (log ++ [note]) := by
  intro before done after hlog
  rcases after.eq_nil_or_concat with rfl | ⟨after, last, rfl⟩
  · obtain ⟨rfl, hlast⟩ := List.append_inj' hlog rfl
    exact hnote done (List.singleton_inj.mp hlast)
  · rw [List.concat_eq_append, ← List.cons_append, ← List.append_assoc] at hlog
    exact h before done after (List.append_inj' hlog rfl).1

namespace Stage

/-- The session goes on in good order from here, as it did so far. -/
def Abides (stage : Stage) (log : List Note) : Prop :=
  Disciplined log ∧
    match stage with
    | resting session | listening session _ => session.Abides log
    | acting move => move.Passes Session.discipline log

theorem abides_ofMove {move : Move} (h : Disciplined log)
    (hpasses : move.Passes Session.discipline log) : (ofMove move).Abides (log ++ notes move) := by
  cases move with
  | done stand =>
      obtain ⟨turn, session⟩ := stand
      have habides : session.Abides log := hpasses
      cases turn with
      | reply result =>
          have hreplied : Disciplined (log ++ [.replied result]) := h.snoc (by rintro _ ⟨⟩)
          rw [notes, ← List.singleton_append, ← List.append_assoc]
          exact ⟨hreplied.snoc (by rintro _ ⟨⟩), (habides.snoc id id rfl).snoc id id rfl⟩
      | listen goal => exact ⟨h.snoc (by rintro _ ⟨⟩), habides.snoc id id rfl⟩
  | _ =>
      show Abides _ (log ++ [])
      rw [List.append_nil]
      exact ⟨h, hpasses⟩

theorem Goes.abides {stage stage' : Stage} {more : List Note} (hgoes : stage.Goes more stage')
    (h : stage.Abides log) : stage'.Abides (log ++ more) := by
  obtain ⟨hlog, hstage⟩ := h
  cases hgoes with
  | call session call =>
      rw [← List.singleton_append, ← List.append_assoc]
      exact abides_ofMove (hlog.snoc (by rintro _ ⟨⟩)) (Session.Abides.call hstage call)
  | @deed move next done hgoes =>
      obtain ⟨hmay, hpasses⟩ := Move.Passes.did hstage hgoes
      rw [← List.singleton_append, ← List.append_assoc]
      refine abides_ofMove (hlog.snoc ?_) hpasses
      rintro _ ⟨⟩
      exact hmay
  | hear hlive heard =>
      rw [← List.singleton_append, ← List.append_assoc]
      exact abides_ofMove (hlog.snoc (by rintro _ ⟨⟩)) (Session.Abides.hear hstage hlive _ heard)
  | edit session history transcript =>
      have hedited : ({ session with history, transcript } : Session).Abides log :=
        Session.Abides.alike hstage rfl rfl rfl rfl
      exact ⟨hlog.snoc (by rintro _ ⟨⟩), hedited.snoc id id rfl⟩

end Stage

namespace Session

variable {config : Config} {url : String}

theorem new_abides (config : Config) (url : String) : (new config url).Abides [] :=
  ⟨⟨rfl, fun hrunning => absurd hrunning not_since_nil, fun hshut => absurd hshut not_since_nil⟩,
    by rintro _ ⟨⟩, fun hnone => absurd rfl hnone, fun hrunning => absurd hrunning not_since_nil⟩

theorem Course.abides {stage : Stage} (h : Course config url log stage) : stage.Abides log := by
  induction h with
  | new =>
      refine ⟨?_, new_abides config url⟩
      intro before done after hlog
      exact absurd hlog.symm (List.append_ne_nil_of_right_ne_nil _ (List.cons_ne_nil _ _))
  | step h hgoes ih => exact hgoes.abides ih

/-! ### The numbers of lines -/

theorem lineNumbers_append (log more : List Note) :
    lineNumbers (log ++ more) = lineNumbers log ++ lineNumbers more := by
  rw [lineNumbers, written, List.filterMap_append, List.filterMap_append]
  rfl

theorem line_or_other (note : Note) :
    (∃ request sequence text, note = .did (.wrote (.line request sequence text) (.ok ()))) ∨
      note.isLine = false ∧ lineNumbers [note] = [] := by
  cases note with
  | did done =>
      cases done with
      | wrote content answer =>
          rcases answer with cause | ⟨⟨⟩⟩
          · cases content <;> exact .inr ⟨rfl, rfl⟩
          · cases content with
            | line request sequence text => exact .inl ⟨request, sequence, text, rfl⟩
            | _ => exact .inr ⟨rfl, rfl⟩
      | _ => exact .inr ⟨rfl, rfl⟩
  | _ => exact .inr ⟨rfl, rfl⟩

theorem lineNumbers_of_disciplined (h : Disciplined log) :
    lineNumbers log = (List.range (lines log)).map UInt64.ofNat := by
  induction log using List.reverseRecOn with
  | nil => rfl
  | append_singleton log note ih =>
      have hlog : Disciplined log := by
        intro before done after hlog
        refine h before done (after ++ [note]) ?_
        rw [hlog, List.append_assoc, List.cons_append]
      rw [lineNumbers_append, ih hlog]
      -- Only a line moves the count, and the discipline says that its number is the count so far.
      rcases line_or_other note with ⟨request, sequence, text, rfl⟩ | ⟨hline, hnone⟩
      · obtain ⟨-, hsequence⟩ := h log _ [] rfl request sequence text _ rfl
        rw [lines_snoc, hsequence]
        show _ = (List.range (lines log + 1)).map UInt64.ofNat
        rw [List.range_succ, List.map_append]
        rfl
      · rw [lines_other hline, hnone, List.append_nil]

theorem toNat_lineNumbers (h : Disciplined log) (hfew : (lineNumbers log).length ≤ UInt64.size) :
    (lineNumbers log).map UInt64.toNat = List.range (lineNumbers log).length := by
  have hlength : (lineNumbers log).length = lines log := by
    rw [lineNumbers_of_disciplined h, List.length_map, List.length_range]
  rw [hlength] at hfew ⊢
  rw [lineNumbers_of_disciplined h, List.map_map]
  have hsame : ∀ n ∈ List.range (lines log), (UInt64.toNat ∘ UInt64.ofNat) n = id n := by
    intro n hn
    exact UInt64.toNat_ofNat_of_lt' (Nat.lt_of_lt_of_le (List.mem_range.mp hn) hfew)
  rw [List.map_congr_left hsame, List.map_id]

/-- However its deeds are answered and whatever its workers say, what a session writes is in good
order. Below `2 ^ 64` lines, they are numbered from zero on over all workers. Each line that is
written, and each that fails to be, is for the request that was heard last, and since then no
other line was written, the pending run has not ended and the session was neither started again
nor torn down. After the buffer was closed, closed is what was written to it last, at every rest
until the session was to spawn a worker. -/
theorem writes_disciplined {stage : Stage} (h : Course config url log stage) :
    ((lineNumbers log).length ≤ UInt64.size →
      (lineNumbers log).map UInt64.toNat = List.range (lineNumbers log).length) ∧
    (∀ before request sequence text answer after,
      log = before ++ .did (.wrote (.line request sequence text) answer) :: after →
        Asking request before) ∧
    ∀ session, stage.session? = some session → Shut log →
      (written log).getLast? = some .closed := by
  obtain ⟨hlog, hstage⟩ := h.abides
  refine ⟨toNat_lineNumbers hlog, ?_, ?_⟩
  · intro before request sequence text answer after hsplit
    exact (hlog before _ after hsplit request sequence text answer rfl).1
  · intro session hsession hshut
    cases stage with
    | acting move => cases hsession
    | resting last => exact (hstage.shut hshut).2
    | listening last goal => exact (hstage.shut hshut).2

/-- Two workers ask for a line each, with numbers of their own choice, and are answered; then the
session is torn down. -/
theorem writes_disciplined_of_two_workers :
    (∃ before after session, Course .default "memory://0"
        (before ++ .did (.wrote (.line 3 1 "two") (.ok ())) :: after) (.resting session) ∧
      (lineNumbers (before ++ .did (.wrote (.line 3 1 "two") (.ok ())) :: after)).map
        UInt64.toNat = [0, 1] ∧ Asking 3 before) ∧
    ∃ log session, Course .default "memory://0" log (.resting session) ∧ Shut log ∧
      (written log).getLast? = some .closed := by
  have submitted := course_started.step (.call _ (.submit "input()"))
  have running := submitted.step (.deed (.post (.ok ())))
  have waiting := running.step (.call _ (.wait none))
  have asked := waiting.step (.hear rfl (.event (.input 7 none)))
  have reset := asked.step (.deed (.write (.ok ())))
  have typed := reset.step (.call _ (.line "one"))
  have silent := typed.step (.hear rfl .quiet)
  have answered := silent.step (.deed (.write (.ok ())))
  have restarted := answered.step (.call _ .start)
  have stopped := restarted.step (.deed .terminate)
  have emptied := stopped.step (.deed (.write (.ok ())))
  have replaced := emptied.step (.deed (.spawn (.ok ())))
  have posted := replaced.step (.deed (.post (.ok ())))
  have asked' := posted.step (.hear rfl (.event (.input 3 none)))
  have reset' := asked'.step (.deed (.write (.ok ())))
  have ready := reset'.step (.hear rfl (.event .initOk))
  have typed' := ready.step (.call _ (.line "two"))
  have silent' := typed'.step (.hear rfl .quiet)
  have answered' := silent'.step (.deed (.write (.ok ())))
  have leaving := answered'.step (.call _ .teardown)
  have alone := leaving.step (.deed .terminate)
  have closed := alone.step (.deed (.write (.ok ())))
  constructor
  · obtain ⟨hnumbers, hasking, -⟩ := writes_disciplined answered'
    exact ⟨_, _, _, answered', hnumbers (by decide), hasking _ 3 1 "two" _ _ rfl⟩
  · have hshut (log : List Note) (result : Except SessionError Reply) (session : Session) :
        Shut (log ++ [.did (.wrote .closed (.ok ())), .replied result, .showed session]) := by
      have h : Shut (log ++ [.did (.wrote .closed (.ok ()))] ++ [.replied result] ++
          [.showed session]) := .still (.still (.here trivial) id) id
      rwa [List.append_assoc, List.append_assoc] at h
    exact ⟨_, _, closed, hshut _ _ _, (writes_disciplined closed).2.2 _ rfl (hshut _ _ _)⟩

end Session
end ScriptConsole
