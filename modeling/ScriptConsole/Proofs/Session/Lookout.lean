import ScriptConsole.Proofs.Session.Unasked

/-!
What a session looks out for while it waits: the end of a run, and a request for a line that was
not reported yet. Both can be told from the notes alone. A request is looked out for until it is
reported, until a line for it was written or was to be, and until its run has ended or its worker
is let go of.
-/

namespace ScriptConsole

/-- The reply tells the user of a request for a line. -/
def Reply.IsReport : Reply → Prop
  | .waited (.awaitingInput _) => True
  | _ => False

namespace Note

/-- A worker was told to run a text. -/
def startsRun : Note → Bool
  | .did (.posted _ (.run _) (.ok _)) => true
  | _ => false

/-- The worker said how a run ended, or it was let go of. -/
def endsRun : Note → Bool
  | .heard _ (.event (.run _ _ _)) | .did (.terminated _) => true
  | _ => false

/-- The prompt of the request for a line that was heard, if one was. -/
def opens? : Note → Option (Option String)
  | .heard _ (.event (.input _ prompt)) => some prompt
  | _ => none

/-- After this note the user need not be told of an earlier request any more: there is a later
one, or the user was told, or a line was written for it or was to be, or the run that made it has
ended, or the worker was let go of. -/
def closes (running : Bool) : Note → Bool
  | .heard _ (.event (.input _ _)) | .replied (.ok (.waited (.awaitingInput _)))
  | .did (.wrote (.line _ _ _) _) | .did (.terminated _) => true
  | .heard _ (.event (.run _ _ _)) => running
  | _ => false

end Note

structure Lookout where
  /-- A text runs. -/
  running : Bool
  /-- The prompt of a request for a line that is open and was not reported. -/
  asked : Option (Option String)

namespace Lookout

def clear : Lookout := ⟨false, none⟩

def note (r : Lookout) (note : Note) : Lookout where
  running := note.startsRun || !note.endsRun && r.running
  asked := note.opens?.or (bif note.closes r.running then none else r.asked)

/-- What the notes tell. -/
def ofLog (log : List Note) : Lookout :=
  log.foldl note clear

theorem ofLog_append (log more : List Note) :
    ofLog (log ++ more) = more.foldl note (ofLog log) :=
  List.foldl_append

theorem ofLog_concat (log : List Note) (last : Note) :
    ofLog (log ++ [last]) = (ofLog log).note last :=
  ofLog_append log [last]

theorem note_reply (r : Lookout) {reply : Reply} (hother : ¬ reply.IsReport) :
    r.note (.replied (.ok reply)) = r := by
  cases reply with
  | waited outcome =>
      cases outcome with
      | awaitingInput prompt => exact absurd trivial hother
      | _ => rfl
  | _ => rfl

end Lookout

namespace Session

/-- What the session itself knows of it. -/
def lookout (session : Session) : Lookout :=
  ⟨session.isRunPending,
    if session.announce && session.isAwaitingInput then some session.prompt else none⟩

/-- The session listens for nothing that ends with a report of a request. -/
def Withholds : Listening → Prop
  | .boot (.run _ reply) => ¬ reply.IsReport
  | _ => True

/-- The session looks out for what is left when it comes to rest or listens, and a request that it
reports is the one that was looked out for. -/
def Watches (r : Lookout) : Turn × Session → Prop
  | (.reply result, session) =>
      (∀ prompt, result = .ok (.waited (.awaitingInput prompt)) → r.asked = some prompt) ∧
        session.lookout = r.note (.replied result)
  | (.listen goal, session) => session.lookout = r ∧ Withholds goal

def watch : Monitor Lookout where
  note := Lookout.note
  May _ _ := True
  Stands := Watches

variable {session : Session} {r : Lookout}

/-! ### Sessions -/

theorem lookout_of_not_awaiting (h : session.isAwaitingInput = false) :
    session.lookout = ⟨session.isRunPending, none⟩ := by
  rw [lookout, h, Bool.and_false]
  rfl

theorem abandon_lookout (session : Session) (reason : Pending → TransportError) :
    (session.abandon reason).lookout = .clear := by
  rw [lookout_of_not_awaiting (session.abandon_unasked reason)]
  rw [abandon]
  split <;> rfl

theorem Settled.lookout_of_dead (h : session.Settled) (hdead : session.live = none) :
    session.lookout = .clear := by
  have hquiet : session.isAwaitingInput = false := by
    rw [← Bool.not_eq_true]
    exact fun hawaiting => h.request (h.awaiting hawaiting) hdead
  have hidle : session.isRunPending = false := by
    rw [← Bool.not_eq_true]
    exact fun hrunning => h.ready.mp (h.run (beq_iff_eq.mp hrunning)) hdead
  rw [lookout_of_not_awaiting hquiet, hidle]
  rfl

theorem printRejection_lookout (session : Session) (pending : Option Pending) :
    (session.printRejection pending).lookout = session.lookout := by
  cases pending <;> rfl

theorem takeRun_lookout (session : Session) (worker : Nat) (success : Bool)
    (output error : Option String) :
    (session.takeRun success output error).lookout =
      session.lookout.note (.heard worker (.event (.run success output error))) := by
  cases hpending : session.isRunPending with
  | true =>
      obtain ⟨transcript, lastRun, htaken⟩ := takeRun_pending hpending success output error
      have hrunning : session.lookout.running = true := hpending
      rw [htaken, Lookout.note, hrunning, lookout_of_not_awaiting rfl]
      rfl
  | false =>
      have hidle : session.lookout.running = false := hpending
      rw [takeRun_idle hpending, Lookout.note, hidle]
      exact congrArg (Lookout.mk · _) hidle

theorem openRequest_lookout (session : Session) (worker : Nat) (request : UInt64)
    (prompt : Option String) :
    (session.openRequest request prompt).lookout =
      session.lookout.note (.heard worker (.event (.input request prompt))) := by
  obtain ⟨transcript, hprint⟩ := session.exists_printSome .output prompt
  rw [openRequest, hprint]
  rfl

/-! ### Steps that moves are made of -/

theorem fail_watches (h : session.lookout = r) (error : SessionError) :
    (session.fail error).Passes watch r :=
  ⟨by rintro _ ⟨⟩, h⟩

theorem reply_watches (h : session.lookout = r) {reply : Reply} (hother : ¬ reply.IsReport) :
    (session.reply reply).Passes watch r := by
  refine ⟨?_, h.trans (r.note_reply hother).symm⟩
  rintro prompt ⟨⟩
  exact absurd trivial hother

theorem listen_watches (h : session.lookout = r) {goal : Listening} (hgoal : Withholds goal) :
    (session.listen goal).Passes watch r := by
  rw [listen]
  cases session.live with
  | none => exact fail_watches h _
  | some worker => exact ⟨h, hgoal⟩

theorem letGo_watches (hdead : session.live = none → r = .clear)
    {reason : Pending → TransportError} {next : Session → Move}
    (hnext : (next (session.abandon reason)).Passes watch .clear) :
    Move.Passes watch (session.letGo reason >>= next) r := by
  refine letGo_passes (fun hlive => ?_) fun _ _ => ⟨trivial, hnext⟩
  rw [hdead hlive]
  exact hnext

theorem giveUp_watches (hdead : session.live = none → r = .clear)
    (reason : Pending → TransportError) (error : SessionError) :
    Move.Passes watch (do (← session.letGo reason).fail error) r :=
  letGo_watches hdead (fail_watches (session.abandon_lookout reason) error)

/-! ### Starting and running -/

theorem postRun_watches (h : session.lookout = r) (code : String) {reply : Reply}
    (hother : ¬ reply.IsReport) : (session.postRun code reply).Passes watch r := by
  cases hlive : session.live with
  | none =>
      rw [postRun, hlive]
      exact fail_watches h _
  | some worker =>
      rw [postRun_of_live hlive]
      rintro (cause | ⟨⟨⟩⟩)
      · refine ⟨trivial, giveUp_watches (fun hdead => ?_) _ _⟩
        cases hlive.symm.trans hdead
      · refine ⟨trivial, reply_watches ?_ hother⟩
        exact congrArg (fun r : Lookout => { r with running := true }) h

theorem awaitBoot_watches (h : session.lookout = r) {next : AfterBoot}
    (hnext : Withholds (.boot next)) : (session.awaitBoot next).Passes watch r := by
  rw [awaitBoot]
  split
  · exact listen_watches h hnext
  · split
    · cases next with
      | reply => exact reply_watches h id
      | run code reply => exact postRun_watches h code hnext
    · exact fail_watches h _

theorem spawn_watches (h : session.lookout = r) (hidle : r.running = false) {next : AfterBoot}
    (hnext : Withholds (.boot next)) : (session.spawn next).Passes watch r := by
  rintro (cause | ⟨⟨⟩⟩)
  · exact ⟨trivial, fail_watches h _⟩
  · refine ⟨trivial, ?_⟩
    rintro (cause | ⟨⟨⟩⟩)
    · exact ⟨trivial, trivial, fail_watches h _⟩
    · refine ⟨trivial, awaitBoot_watches ?_ hnext⟩
      obtain rfl := h
      exact congrArg (Lookout.mk · _) hidle.symm

theorem launch_watches (hdead : session.live = none → r = .clear) {next : AfterBoot}
    (hnext : Withholds (.boot next)) : (session.launch next).Passes watch r := by
  have hfresh : ({ (session.abandon .terminated).printRejection session.pending with
      bootError := none } : Session).lookout = .clear :=
    (printRejection_lookout _ session.pending).trans (session.abandon_lookout .terminated)
  refine letGo_watches hdead ?_
  rintro (cause | ⟨⟨⟩⟩)
  · exact ⟨trivial, fail_watches hfresh _⟩
  · exact ⟨trivial, spawn_watches hfresh rfl hnext⟩

theorem submit_watches (hsettled : session.Settled) (h : session.lookout = r) (code : String)
    {reply : Reply} (hother : ¬ reply.IsReport) : (session.submit code reply).Passes watch r := by
  rw [submit]
  split
  · exact fail_watches h _
  · split
    · exact postRun_watches h code hother
    · exact launch_watches (fun hdead => h ▸ hsettled.lookout_of_dead hdead) hother

/-! ### Typed lines -/

theorem writeInput_watches (hquiet : session.isAwaitingInput = false)
    (hopen : session.request ≠ none) (hidle : session.isRunPending = r.running) (text : String)
    {reply : Reply} (hother : ¬ reply.IsReport) :
    (session.writeInput text reply).Passes watch r := by
  obtain ⟨request, hrequest⟩ := Option.ne_none_iff_exists'.mp hopen
  have hleft (other : Session) (hquiet : other.isAwaitingInput = false)
      (hsame : other.isRunPending = session.isRunPending) :
      other.lookout = ⟨r.running, none⟩ := by
    rw [lookout_of_not_awaiting hquiet, hsame, hidle]
  rw [writeInput, hrequest]
  rintro (cause | ⟨⟨⟩⟩)
  · exact ⟨trivial, fail_watches (hleft session hquiet rfl) _⟩
  · refine ⟨trivial, reply_watches ?_ hother⟩
    exact hleft _ hquiet rfl

theorem takeLine_watches (hsettled : session.Settled) (h : session.lookout = r) (text : String) :
    (session.takeLine text).Passes watch r := by
  have hquiet := push_awaitingInput session.statements text
  have hleft := hsettled.withStatements hquiet
  rw [takeLine]
  cases hawaiting : session.isAwaitingInput with
  | true =>
      have hpush : session.statements.push text =
          (.input (String.ofList (Text.dropLineEnd text.toList)), .empty) := by
        rw [StatementBuffer.push]
        exact if_pos hawaiting
      rw [hpush]
      refine writeInput_watches rfl ?_ ?_ _ ?_
      · exact hsettled.awaiting hawaiting
      · exact congrArg Lookout.running h
      · exact id
  | false =>
      have hnone := push_of_not_awaiting hawaiting text
      generalize session.statements.push text = pushed at hquiet hleft hnone ⊢
      obtain ⟨outcome, statements⟩ := pushed
      have hsame : ({ session with statements } : Session).lookout = r := by
        rw [← h, lookout_of_not_awaiting hawaiting]
        exact lookout_of_not_awaiting hquiet
      cases outcome with
      | statement source =>
          have hrecorded : ({ session with
              statements
              history := session.history.push (String.ofList (Text.trim source.toList)) } :
                Session).Settled :=
            hleft.alike rfl rfl rfl rfl rfl
          exact submit_watches (hrecorded.print .input _) hsame source id
      | input line => exact absurd rfl (hnone line)
      | ignored => exact reply_watches hsame id
      | incomplete => exact reply_watches hsame id

theorem afterPoll_watches (hsettled : session.Settled) (h : session.lookout = r)
    (next : AfterPoll) : (session.afterPoll next).Passes watch r := by
  cases next with
  | reply => exact reply_watches h id
  | line request text =>
      rw [afterPoll]
      split
      · exact takeLine_watches hsettled h text
      · exact fail_watches h _
  | deliver request text =>
      rw [afterPoll]
      split
      · next hopen =>
        refine writeInput_watches rfl ?_ ?_ text ?_
        · exact isOpen_request hopen
        · exact congrArg Lookout.running h
        · exact id
      · exact fail_watches h _

theorem awaitSilence_watches (hsettled : session.Settled) (h : session.lookout = r)
    (next : AfterPoll) : (session.awaitSilence next).Passes watch r := by
  rw [awaitSilence]
  split
  · exact afterPoll_watches hsettled h next
  · exact listen_watches h trivial

theorem awaitQuiet_watches (h : session.lookout = r) (limit : Option Duration) :
    (session.awaitQuiet limit).Passes watch r := by
  rw [awaitQuiet]
  split
  · next hannounce =>
    have hasked : r.asked = some session.prompt := by
      rw [← h, lookout, if_pos hannounce]
    refine ⟨?_, ?_⟩
    · rintro prompt ⟨⟩
      exact hasked
    · obtain rfl := h
      rfl
  · split
    · exact reply_watches h id
    · exact listen_watches h trivial

/-! ### Calls and what is heard meanwhile -/

theorem call_watches (hsettled : session.Settled) (h : session.lookout = r) (call : Call) :
    (session.call call).Passes watch r := by
  have hdead : session.live = none → r = .clear :=
    fun hdead => h ▸ hsettled.lookout_of_dead hdead
  cases call with
  | start => exact launch_watches hdead trivial
  | submit code => exact submit_watches hsettled h code id
  | line text =>
      rw [Session.call, line]
      split
      · exact awaitSilence_watches hsettled h _
      · split
        · exact fail_watches h _
        · exact takeLine_watches hsettled h text
  | deliver text =>
      rw [Session.call, deliver]
      split
      · exact awaitSilence_watches hsettled h _
      · exact fail_watches h _
  | poll => exact awaitSilence_watches hsettled h .reply
  | wait limit => exact awaitQuiet_watches h limit
  | runSource name text =>
      cases text with
      | error cause => exact fail_watches h _
      | ok code =>
          refine launch_watches ?_ ?_
          · exact hdead
          · exact id
  | teardown =>
      refine letGo_watches hdead fun answer => ⟨trivial, ?_⟩
      exact reply_watches (session.abandon_lookout .terminated) id

theorem take_watches (hheld : session.live ≠ none) (h : session.lookout = r) (worker : Nat)
    (event : Event) {next : Session → Move}
    (hnext : ∀ (taken : Session) (r : Lookout), (session.Settled → taken.Settled) →
      taken.lookout = r → (next taken).Passes watch r) :
    Move.Passes watch (session.take event >>= next) (r.note (.heard worker (.event event))) := by
  obtain rfl := h
  cases event with
  | init success error =>
      rw [take, takeBoot]
      split
      · next hboots =>
        have hidle : session.isRunPending = false := by
          rw [isRunPending, hboots]
          rfl
        split
        · refine hnext _ _ (fun hsettled => absurd hboots hsettled.booted.2) ?_
          exact congrArg (Lookout.mk · _) hidle.symm
        · refine letGo_watches (fun hdead => ?_) ?_
          · exact absurd hdead hheld
          · exact hnext _ _ (fun _ => (abandon_settled _ _).1) (abandon_lookout _ _)
      · exact hnext session _ id rfl
  | run success output error =>
      exact hnext _ _ (fun hsettled => (hsettled.takeRun success output error).1)
        (session.takeRun_lookout worker success output error)
  | stdout text => exact hnext _ _ (fun hsettled => hsettled.print .output text) rfl
  | stderr text => exact hnext _ _ (fun hsettled => hsettled.print .error text) rfl
  | input request prompt =>
      refine fun _ => ⟨trivial, hnext _ _ (fun hsettled => ?_) ?_⟩
      · exact (hsettled.openRequest hheld request prompt).1
      · exact session.openRequest_lookout worker request prompt

theorem hear_watches {goal : Listening} (hlistens : session.Listens goal)
    (hwatches : Watches r (.listen goal, session)) (worker : Nat) (heard : Heard) :
    (session.hear goal heard).Passes watch (r.note (.heard worker heard)) := by
  obtain ⟨h, hwithholds⟩ := hwatches
  have hheld : session.live ≠ none := by
    cases goal with
    | boot next => exact Boots.live hlistens
    | wait limit => exact hlistens.2
    | poll next => exact hlistens.2
  have hdead : session.live = none → r = .clear := fun hdead => absurd hdead hheld
  cases heard with
  | event event =>
      refine take_watches hheld h worker event fun taken r hsettled h => ?_
      cases goal with
      | boot next => exact awaitBoot_watches h hwithholds
      | wait limit => exact awaitQuiet_watches h limit
      | poll next => exact awaitSilence_watches (hsettled hlistens.1) h next
  | quiet =>
      cases goal with
      | boot next => exact giveUp_watches hdead _ _
      | wait limit => exact reply_watches h id
      | poll next => exact afterPoll_watches hlistens.1 h next
  | gone => exact giveUp_watches hdead _ _

end Session

/-! ### Courses -/

namespace Stage

/-- The session looks out for what is left, wherever it is. -/
def Watches (r : Lookout) : Stage → Prop
  | resting session => session.lookout = r
  | acting move => move.Passes Session.watch r
  | listening session goal => Session.Watches r (.listen goal, session)

/-- Every report among the notes is of the request that was looked out for. -/
def Reports (r : Lookout) : List Note → Prop
  | [] => True
  | note :: notes =>
      (∀ prompt, note = .replied (.ok (.waited (.awaitingInput prompt))) →
        r.asked = some prompt) ∧ Reports (r.note note) notes

variable {r : Lookout}

theorem reports_append {notes more : List Note} :
    Reports r (notes ++ more) ↔
      Reports r notes ∧ Reports (notes.foldl Lookout.note r) more := by
  induction notes generalizing r with
  | nil => exact (iff_of_eq (true_and _)).symm
  | cons note notes ih =>
      rw [List.cons_append, Reports, Reports, ih, and_assoc]
      rfl

theorem watches_ofMove {move : Move} (h : move.Passes Session.watch r) :
    (ofMove move).Watches ((notes move).foldl Lookout.note r) ∧ Reports r (notes move) := by
  cases move with
  | done stand =>
      obtain ⟨turn, session⟩ := stand
      cases turn with
      | reply result =>
          obtain ⟨hreport, hleft⟩ := h
          refine ⟨hleft, ?_, by rintro _ ⟨⟩, trivial⟩
          rintro prompt ⟨⟩
          exact hreport prompt rfl
      | listen goal => exact ⟨h, by rintro _ ⟨⟩, trivial⟩
  | _ => exact ⟨h, trivial⟩

theorem Goes.watches {stage stage' : Stage} {notes : List Note} (hgoes : stage.Goes notes stage')
    {roster : Roster} (hsettles : stage.Settles roster) (h : stage.Watches r) :
    stage'.Watches (notes.foldl Lookout.note r) ∧ Reports r notes := by
  cases hgoes with
  | call session call =>
      obtain ⟨hnext, hreports⟩ := watches_ofMove (Session.call_watches hsettles.2 h call)
      exact ⟨hnext, by rintro _ ⟨⟩, hreports⟩
  | deed hgoes =>
      obtain ⟨-, hpasses⟩ := Move.Passes.did h hgoes
      obtain ⟨hnext, hreports⟩ := watches_ofMove hpasses
      exact ⟨hnext, by rintro _ ⟨⟩, hreports⟩
  | @hear session goal worker hlive heard =>
      obtain ⟨hnext, hreports⟩ :=
        watches_ofMove (Session.hear_watches hsettles.2 h worker heard)
      exact ⟨hnext, by rintro _ ⟨⟩, hreports⟩
  | edit session history transcript => exact ⟨h, by rintro _ ⟨⟩, trivial⟩

end Stage

/-- Along a course the session looks out for what the notes so far tell of, and it reports nothing
else. -/
theorem Session.Course.watches {config : Config} {url : String} {log : List Note} {stage : Stage}
    (h : Course config url log stage) :
    stage.Watches (.ofLog log) ∧ Stage.Reports .clear log := by
  induction h with
  | new => exact ⟨rfl, trivial⟩
  | step h hgoes ih =>
      obtain ⟨r, hsettles, -⟩ := h.settles
      obtain ⟨hnext, hreports⟩ := hgoes.watches hsettles ih.1
      rw [Lookout.ofLog_append]
      exact ⟨hnext, Stage.reports_append.mpr ⟨ih.2, hreports⟩⟩

end ScriptConsole
