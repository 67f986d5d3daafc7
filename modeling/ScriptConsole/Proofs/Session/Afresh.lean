import ScriptConsole.Proofs.Session.Recital
import ScriptConsole.Proofs.Session.Turns

/-!
A session that runs a whole program. It shows the notice that it initializes and then what the
program shows; what it was at before is gone once its new worker has the program.
-/

namespace ScriptConsole

theorem Transcript.entries_print (transcript : Transcript) (kind : EntryKind) (text : String) :
    (transcript.print kind text).entries = transcript.entries ++ [⟨kind, text⟩] :=
  entries_of_marks rfl

namespace Session

/-- The sessions are alike in all that is done with them and all that is shown of them. Which
worker they hold, how many there were before it, and what was typed and answered in former times
makes no difference. -/
structure Resembles (session other : Session) : Prop where
  transcript : session.transcript.entries = other.transcript.entries
  lastRun : session.lastRun = other.lastRun
  phase : session.phase = other.phase
  pending : session.pending = other.pending
  bootError : session.bootError = other.bootError
  prompt : session.prompt = other.prompt
  statements : session.statements = other.statements

/-- The session shows the notice and what a program has shown. -/
def Displays (session : Session) (shown : List Entry) : Prop :=
  session.transcript.entries = ⟨.info, initializing⟩ :: shown

variable {session : Session} {shown : List Entry} {worker given : Nat} {config : Config}
  {url : String} {request : UInt64} {prompt : Option String}

theorem Displays.print (h : session.Displays shown) (kind : EntryKind) (text : String) :
    (session.print kind text).Displays (shown ++ [⟨kind, text⟩]) := by
  rw [Displays, Session.print, Transcript.entries_print, h, List.cons_append]

theorem Displays.printSome (h : session.Displays shown) (kind : EntryKind) (text : Option String) :
    (session.printSome kind text).Displays (shown ++ Entry.ofText? kind text) := by
  rw [Displays, Transcript.entries_of_marks (session.marks_printSome kind text), h,
    List.cons_append]

/-! ### To the new worker -/

/-- Nothing is left of what the session was at but the numbers of its workers and of the lines
that it wrote. -/
structure Starts (session : Session) (config : Config) (url : String) (worker given : Nat) :
    Prop where
  config : session.config = config
  bufferUrl : session.bufferUrl = url
  spawned : session.spawned = worker
  sequence : session.sequence = UInt64.ofNat given
  statements : session.statements = .empty
  bootError : session.bootError = none
  prompt : session.prompt = none
  displays : session.Displays []

/-- The worker was told to boot. -/
structure AwaitsBoot (session : Session) (config : Config) (worker given : Nat) : Prop where
  config : session.config = config
  live : session.live = some worker
  pending : session.pending = some .init
  sequence : session.sequence = UInt64.ofNat given
  statements : session.statements = .empty
  bootError : session.bootError = none
  prompt : session.prompt = none
  displays : session.Displays []

/-- The session holds a worker that has booted. -/
structure Employs (session : Session) (worker given : Nat) (shown : List Entry) : Prop where
  live : session.live = some worker
  phase : session.phase = .ready
  sequence : session.sequence = UInt64.ofNat given
  bootError : session.bootError = none
  displays : session.Displays shown

/-- A program runs that has not asked for a line. -/
structure IsEngaged (session : Session) : Prop extends IsBusy session where
  lastRun : session.lastRun = none

/-- Nothing that happened to the session before is left when it lets go of its worker. -/
theorem runSource_starts (hpending : session.pending = none) (name code : String) :
    ∃ (next : Except BufferError Unit → Move) (session' : Session),
      (session.call (.runSource name (.ok code)) = .write .empty next ∨
        ∃ old more, session.live = some old ∧
          session.call (.runSource name (.ok code)) = .terminate old more ∧
          more () = .write .empty next) ∧
      next (.ok ()) = session'.spawn (.run code .done) ∧
      session'.Starts session.config session.bufferUrl session.spawned session.sequence.toNat := by
  obtain ⟨config, url, phase, live, spawned, pending, bootError, lastRun, prompt, request, announce,
    sequence, statements, history, transcript⟩ := session
  cases hpending
  have hdisplays : ((transcript.clear.print .info initializing).entries : List Entry) =
      [⟨.info, initializing⟩] := by
    rw [Transcript.entries_print, Transcript.entries, Transcript.clear, List.foldl_append]
    rfl
  have hsequence : sequence = UInt64.ofNat sequence.toNat := UInt64.ofNat_toNat.symm
  cases live with
  | none => exact ⟨_, _, .inl rfl, rfl, ⟨rfl, rfl, rfl, hsequence, rfl, rfl, rfl, hdisplays⟩⟩
  | some old =>
      exact ⟨_, _, .inr ⟨old, _, rfl, rfl, rfl⟩, rfl,
        ⟨rfl, rfl, rfl, hsequence, rfl, rfl, rfl, hdisplays⟩⟩

theorem Starts.spawn (h : session.Starts config url worker given) (after : AfterBoot) :
    ∃ (next more : Except TransportError Unit → Move) (session' : Session),
      session.spawn after = .spawn next ∧
      next (.ok ()) = .post worker (.boot config url) more ∧
      more (.ok ()) = session'.awaitBoot after ∧ session'.AwaitsBoot config worker given := by
  obtain ⟨rfl, rfl, rfl, hsequence, hstatements, hbootError, hprompt, hdisplays⟩ := h
  exact ⟨_, _, _, rfl, rfl, rfl,
    ⟨rfl, rfl, rfl, hsequence, hstatements, hbootError, hprompt, hdisplays⟩⟩

theorem AwaitsBoot.awaitBoot (h : session.AwaitsBoot config worker given) (after : AfterBoot) :
    session.awaitBoot after = .done (.listen (.boot after), session) := by
  rw [Session.awaitBoot, if_pos h.pending, listen, h.live]
  rfl

theorem AwaitsBoot.hear (h : session.AwaitsBoot config worker given) (code : String) :
    ∃ (next : Except TransportError Unit → Move) (session' : Session),
      session.hear (.boot (.run code .done)) (.event .initOk) = .post worker (.run code) next ∧
      next (.ok ()) = session'.reply .done ∧ session'.Employs worker given [] ∧
      session'.IsEngaged := by
  have hmove : session.hear (.boot (.run code .done)) (.event .initOk) =
      ({ session with pending := none, phase := .ready } : Session).postRun code .done := by
    show (session.takeBoot true none).bind (fun s => s.awaitBoot _) = _
    rw [takeBoot, if_pos h.pending, if_pos rfl]
    rfl
  rw [hmove, postRun, h.live]
  exact ⟨_, { session with pending := some .run, phase := .ready, lastRun := none }, rfl,
    by rw [h.live], { h with phase := rfl },
    ⟨⟨rfl, h.statements⟩, rfl⟩⟩

/-! ### While the program runs -/

/-- The program has asked for a line, and the user knows. -/
structure HasAskedFor (session : Session) (request : UInt64) (prompt : Option String) : Prop
    extends HasAsked session request where
  lastRun : session.lastRun = none
  prompt : session.prompt = prompt
  announce : session.announce = false

/-- The program has ended. -/
structure HasEnded (session : Session) (outcome : RunOutcome) : Prop where
  pending : session.pending = none
  statements : session.statements = .empty
  lastRun : session.lastRun = some outcome
  prompt : session.prompt = none

theorem HasAskedFor.isAwaitingInput (h : session.HasAskedFor request prompt) :
    session.isAwaitingInput = true := by
  rw [Session.isAwaitingInput, h.statements]

theorem HasEnded.isRunPending {outcome : RunOutcome} (h : session.HasEnded outcome) :
    session.isRunPending = false := by
  rw [Session.isRunPending, h.pending]
  rfl

theorem HasAskedFor.awaitQuiet (h : session.HasAskedFor request prompt)
    (hlive : session.live = some worker) (limit : Option Duration) :
    session.awaitQuiet limit = .done (.listen (.wait limit), session) := by
  simp only [Session.awaitQuiet, h.announce, h.pending, listen, hlive, Bool.false_and,
    Bool.false_eq_true, if_false, reduceCtorEq]
  rfl

theorem Employs.hear_write {event : Event} (h : session.Employs worker given shown)
    (hengaged : session.IsEngaged) (hwrite : event.IsWrite) (limit : Option Duration) :
    ∃ session', session.hear (.wait limit) (.event event) =
        .done (.listen (.wait limit), session') ∧
      session'.Employs worker given (shown ++ event.entries) ∧ session'.IsEngaged := by
  obtain ⟨kind, text, hentries, htake⟩ := session.take_write hwrite
  have hengaged' : (session.print kind text).IsEngaged :=
    ⟨⟨hengaged.pending, hengaged.statements⟩, hengaged.lastRun⟩
  refine ⟨session.print kind text, ?_, ?_, hengaged'⟩
  · rw [hear, htake]
    exact hengaged'.awaitQuiet h.live limit
  · rw [hentries]
    exact { h with displays := h.displays.print kind text }

theorem Employs.openRequest (h : session.Employs worker given shown)
    (hengaged : session.IsEngaged) (request : UInt64) (prompt : Option String)
    (limit : Option Duration) :
    ∃ session' : Session, (session.openRequest request prompt).awaitQuiet limit =
        session'.reply (.waited (.awaitingInput prompt)) ∧
      session'.Employs worker given (shown ++ Entry.ofText? .output prompt) ∧
      session'.HasAskedFor request prompt := by
  have hdisplays := h.displays.printSome .output prompt
  obtain ⟨transcript, hprint⟩ := session.exists_printSome .output prompt
  rw [hprint] at hdisplays
  rw [Session.openRequest, hprint, hengaged.statements]
  exact ⟨_, rfl, { h with displays := hdisplays },
    ⟨⟨hengaged.pending, rfl, rfl⟩, hengaged.lastRun, rfl, rfl⟩⟩

theorem Employs.hear_run (h : session.Employs worker given shown) (hengaged : session.IsEngaged)
    (outcome : RunOutcome) (limit : Option Duration) :
    ∃ session' : Session, session.hear (.wait limit) (.event outcome.event) =
        session'.reply (.waited .idle) ∧
      session'.Employs worker given (shown ++ outcome.event.entries) ∧
      session'.HasEnded outcome := by
  obtain ⟨transcript, htake, hmarks⟩ := take_run hengaged.pending outcome
  have hempty : session.statements.setAwaitingInput false = .empty := by
    rw [hengaged.statements]
    rfl
  have hdisplays : transcript.entries =
      ⟨.info, initializing⟩ :: (shown ++ outcome.event.entries) := by
    rw [Transcript.entries_of_marks hmarks, h.displays, List.cons_append]
  refine ⟨{ session.closeRequest with
      pending := none
      lastRun := some outcome
      transcript }, ?_, { h with displays := hdisplays },
    ⟨rfl, hempty, rfl, rfl⟩⟩
  rw [hear, htake]
  exact awaitQuiet_of_done rfl hempty limit

/-! ### Answers -/

/-- With this call the user answers a program. -/
def Call.answer? : Call → Option String
  | .line text => some (String.ofList (Text.dropLineEnd text.toList))
  | .deliver text => some text
  | _ => none

theorem Employs.writeInput (h : session.Employs worker given shown)
    (hpending : session.pending = some .run) (hlastRun : session.lastRun = none)
    (hstatements : session.statements = .empty) (hrequest : session.request = some request)
    (answer : String) (reply : Reply) :
    ∃ (next : Except BufferError Unit → Move) (session' : Session),
      session.writeInput answer reply =
        .write (.line request (UInt64.ofNat given) answer) next ∧
      next (.ok ()) = session'.reply reply ∧
      session'.Employs worker (given + 1) (shown ++ [⟨.input, answer⟩]) ∧
      session'.IsEngaged := by
  have hsequence : session.sequence + 1 = UInt64.ofNat (given + 1) := by
    rw [h.sequence]
    exact (UInt64.ofNat_add given 1).symm
  rw [Session.writeInput, hrequest, ← h.sequence]
  exact ⟨_, _, rfl, rfl,
    { h with sequence := hsequence, displays := h.displays.print .input answer },
    ⟨⟨hpending, hstatements⟩, hlastRun⟩⟩

/-- Before the answer is written, the session hears what there is to be heard. -/
theorem HasAskedFor.call (h : session.HasAskedFor request prompt)
    (hemploys : session.Employs worker given shown) {call : Call} {answer : String}
    (hanswer : call.answer? = some answer) :
    ∃ after, session.call call = .done (.listen (.poll after), session) ∧
      ∃ (next : Except BufferError Unit → Move) (session' : Session) (reply : Reply),
        session.hear (.poll after) .quiet =
          .write (.line request (UInt64.ofNat given) answer) next ∧
        next (.ok ()) = session'.reply reply ∧
        session'.Employs worker (given + 1) (shown ++ [⟨.input, answer⟩]) ∧
        session'.IsEngaged := by
  have hleft : ({ session with statements := .empty } : Session).Employs worker given shown :=
    { hemploys with }
  have hopen : session.isOpen (some request) = true := by
    rw [isOpen, h.request, Option.isSome_some, Bool.true_and, beq_self_eq_true]
  -- A typed line loses its line end on the way, and a line that is delivered stays as it is.
  have hwrite (answer : String) (reply : Reply) :=
    hleft.writeInput h.pending h.lastRun rfl h.request answer reply
  cases call with
  | line text =>
      cases hanswer
      refine ⟨.line (some request) text, ?_, ?_⟩
      · simp only [Session.call, Session.line, h.isAwaitingInput, if_true, awaitSilence,
          hemploys.live, listen, h.request]
        rfl
      · have hpush : session.statements.push text =
            (.input (String.ofList (Text.dropLineEnd text.toList)), .empty) := by
          rw [h.statements]
          rfl
        obtain ⟨next, session', hmove, hnext, hafter⟩ := hwrite
          (String.ofList (Text.dropLineEnd text.toList))
          (.line (.input (String.ofList (Text.dropLineEnd text.toList))))
        refine ⟨next, session', _, ?_, hnext, hafter⟩
        rw [← hmove]
        simp only [hear, expire, afterPoll, hopen, if_true, takeLine, hpush]
  | deliver text =>
      refine ⟨.deliver (some request) text, ?_, ?_⟩
      · simp only [Session.call, Session.deliver, h.isAwaitingInput, if_true, awaitSilence,
          hemploys.live, listen, h.request]
        rfl
      · obtain rfl : text = answer := Option.some.inj hanswer
        obtain ⟨next, session', hmove, hnext, hafter⟩ := hwrite text .done
        refine ⟨next, session', _, ?_, hnext, hafter⟩
        rw [← hmove]
        simp only [hear, expire, afterPoll, hopen, if_true, h.statements]
        rfl
  | _ => cases hanswer

/-! ### Where the program has got to -/

/-- The session is where the program has got to. -/
def Halts (session : Session) : Halt → Prop
  | .ended outcome => session.HasEnded outcome
  | .asking prompt => ∃ request, session.HasAskedFor request prompt

/-- What the session shows and what it is at depends on nothing but the recital. -/
theorem Employs.resembles {other : Session} {worker' given' : Nat} {halt : Halt}
    (h : session.Employs worker given shown) (hhalts : session.Halts halt)
    (h' : other.Employs worker' given' shown) (hhalts' : other.Halts halt) :
    session.Resembles other := by
  have htranscript := h.displays.trans h'.displays.symm
  have hphase := h.phase.trans h'.phase.symm
  have hbootError := h.bootError.trans h'.bootError.symm
  cases halt with
  | ended outcome =>
      exact ⟨htranscript, hhalts.lastRun.trans hhalts'.lastRun.symm, hphase,
        hhalts.pending.trans hhalts'.pending.symm, hbootError,
        hhalts.prompt.trans hhalts'.prompt.symm, hhalts.statements.trans hhalts'.statements.symm⟩
  | asking prompt =>
      obtain ⟨request, hasked⟩ := hhalts
      obtain ⟨request', hasked'⟩ := hhalts'
      exact ⟨htranscript, hasked.lastRun.trans hasked'.lastRun.symm, hphase,
        hasked.pending.trans hasked'.pending.symm, hbootError,
        hasked.prompt.trans hasked'.prompt.symm, hasked.statements.trans hasked'.statements.symm⟩

end Session
end ScriptConsole
