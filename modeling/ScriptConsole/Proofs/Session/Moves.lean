import ScriptConsole.Proofs.Session.Account

/-!
Every call of a session, and whatever it does with what it hears, keeps to the account.
-/

namespace ScriptConsole

namespace Account

variable {a : Account}

theorem letGo_of_dead (hlive : a.live = none) : a.letGo = a := by
  simp only [letGo, hlive]

theorem letGo_of_live {worker : Nat} (hlive : a.live = some worker) : a.letGo = a.release := by
  simp only [letGo, hlive, did]

theorem Sound.letGo (h : a.Sound) (hshown : a.shown = a.last) : a.letGo.Sound := by
  cases hlive : a.live with
  | none => rwa [letGo_of_dead hlive]
  | some worker =>
      rw [letGo_of_live hlive]
      exact h.release hshown

theorem Sound.letGo_fields (h : a.Sound) :
    a.letGo.live = none ∧ a.letGo.booting = false ∧ a.letGo.unborn = a.unborn ∧
      a.letGo.delivered = a.delivered ∧ a.letGo.content = a.content ∧
      a.letGo.spawned = a.spawned ∧ a.letGo.config = a.config ∧ a.letGo.url = a.url := by
  cases hlive : a.live with
  | none =>
      rw [letGo_of_dead hlive]
      exact ⟨hlive, (h.dead hlive).2.2.2.2.1, rfl, rfl, rfl, rfl, rfl, rfl⟩
  | some worker =>
      rw [letGo_of_live hlive]
      exact ⟨rfl, rfl, rfl, rfl, rfl, rfl, rfl, rfl⟩

end Account

namespace Session

variable {session : Session} {a : Account}

/-- The session gives this reason for a run that it gives up. -/
def Reason (session : Session) (a : Account) (reason : Pending → TransportError) : Prop :=
  session.pending = some .run → reason .run = if a.lost then .disconnected else .terminated .run

namespace Agrees

theorem isRunPending (h : session.Agrees a) (hsound : a.Sound) :
    session.isRunPending = true ↔ a.replies < a.runs := by
  have hboots := hsound.booting
  simp only [Session.isRunPending, h.pending]
  cases hbooting : a.booting with
  | true => simp [hboots hbooting]
  | false => split <;> simp [*]

theorem pending_run (h : session.Agrees a) (hsound : a.Sound) :
    session.pending = some .run ↔ a.replies < a.runs := by
  rw [← h.isRunPending hsound, Session.isRunPending, beq_iff_eq]

theorem pending_init (h : session.Agrees a) :
    session.pending = some .init ↔ a.booting = true := by
  rw [h.pending]
  cases a.booting with
  | true => simp
  | false => split <;> simp_all

theorem print (h : session.Agrees a) (kind : EntryKind) (text : String) :
    (session.print kind text).Agrees a :=
  { h with }

theorem printSome (h : session.Agrees a) (kind : EntryKind) (text : Option String) :
    (session.printSome kind text).Agrees a := by
  cases text with
  | none => exact h
  | some text =>
      simp only [Session.printSome]
      split
      · exact h
      · exact h.print kind text

theorem printRejection (h : session.Agrees a) (pending : Option Pending) :
    (session.printRejection pending).Agrees a := by
  cases pending with
  | none => exact h
  | some pending => exact h.print .error _

theorem abandon (h : session.Agrees a) (hsound : a.Sound) {reason : Pending → TransportError}
    (hreason : session.Reason a reason) : (session.abandon reason).Agrees a.letGo := by
  have hrun := h.pending_run hsound
  cases hlive : a.live with
  | none =>
      obtain ⟨hruns, hreplies, -, hrequest, hbooting, -⟩ := hsound.dead hlive
      have hidle : session.pending ≠ some .run := by simp [hrun, hruns]
      rw [Account.letGo_of_dead hlive]
      simp only [Session.abandon, hidle, if_false]
      exact { h with
        phase := by simp [hlive]
        live := hlive.symm
        pending := by simp [hbooting, hruns]
        request := hrequest.symm
        awaiting := by rintro ⟨⟩ }
  | some worker =>
      rw [Account.letGo_of_live hlive]
      simp only [Session.abandon]
      have hleft {last : Option RunOutcome} (hlast : last = a.release.last) :
          ({ session.closeRequest with
            live := none
            phase := .uninitialized
            pending := none
            lastRun := last } : Session).Agrees a.release :=
        { h with
          phase := by simp [Account.release]
          live := rfl
          pending := by simp [Account.release]
          last := hlast
          request := rfl
          awaiting := by rintro ⟨⟩ }
      split
      · rename_i hpending
        exact hleft (by simp [Account.release, hrun.mp hpending, hreason hpending])
      · rename_i hpending
        exact hleft (by simp [Account.release, mt hrun.mpr hpending, Session.closeRequest, h.last])

end Agrees

/-- The session agrees with its account and is in the middle of nothing. -/
structure Steady (session : Session) (a : Account) : Prop where
  agrees : session.Agrees a
  sound : a.Sound
  unborn : a.unborn = none
  delivered : a.delivered = none

/-- Besides, the session has not found that its worker is no more. -/
structure Clear (session : Session) (a : Account) : Prop extends Steady session a where
  lost : a.lost = false

theorem Steady.letGo (h : session.Steady a) (hshown : a.shown = a.last)
    (reason : Pending → TransportError) (hreason : session.Reason a reason) :
    (session.abandon reason).Clear a.letGo := by
  obtain ⟨hlive, -, hunborn, hdelivered, -⟩ := h.sound.letGo_fields
  have hsound := h.sound.letGo hshown
  exact ⟨⟨h.agrees.abandon h.sound hreason, hsound, hunborn.trans h.unborn,
    hdelivered.trans h.delivered⟩, (hsound.dead hlive).2.2.2.2.2.1⟩

theorem Clear.agreeing (h : session.Clear a) {session' : Session} (hagrees : session'.Agrees a) :
    session'.Clear a :=
  ⟨⟨hagrees, h.sound, h.unborn, h.delivered⟩, h.lost⟩

/-! ### Steps that moves are made of -/

theorem fail_keeps (h : session.Clear a) (hbooting : a.booting = false) (error : SessionError) :
    (session.fail error).Keeps a :=
  ⟨h.agrees, h.unborn, hbooting, h.lost, fun text htext => by simp [h.delivered] at htext⟩

theorem reply_keeps (h : session.Clear a) (hbooting : a.booting = false) (reply : Reply) :
    (session.reply reply).Keeps a :=
  ⟨h.agrees, h.unborn, hbooting, h.lost, fun text htext => by simp [h.delivered] at htext⟩

theorem listen_keeps (h : session.Clear a) {listening : Listening} (hheeds : Heeds a listening)
    (hlive : a.live ≠ none) : (session.listen listening).Keeps a := by
  obtain ⟨worker, hworker⟩ := Option.ne_none_iff_exists'.mp hlive
  simp only [Session.listen, h.agrees.live, hworker]
  exact ⟨h.agrees, h.unborn, h.lost, hlive, h.delivered, hheeds⟩

theorem letGo_keeps (h : session.Steady a) (hshown : a.shown = a.last)
    {reason : Pending → TransportError} {next : Session → Move}
    (hnext : (next (session.abandon reason)).Keeps a.letGo) :
    Move.Keeps ((session.letGo reason).bind next) a := by
  have hsame := h.agrees.live
  cases hlive : a.live with
  | none =>
      rw [hlive] at hsame
      rw [Account.letGo_of_dead hlive] at hnext
      simp only [Session.letGo, hsame]
      exact hnext
  | some worker =>
      rw [hlive] at hsame
      rw [Account.letGo_of_live hlive] at hnext
      simp only [Session.letGo, hsame]
      exact ⟨h.delivered, ⟨hlive, hshown⟩, hnext⟩

theorem giveUp_keeps (h : session.Steady a) (hshown : a.shown = a.last)
    {reason : Pending → TransportError} (hreason : session.Reason a reason)
    (error : SessionError) :
    Move.Keeps ((session.letGo reason).bind fun left => left.fail error) a :=
  letGo_keeps h hshown (fail_keeps (h.letGo hshown _ hreason) h.sound.letGo_fields.2.1 error)

/-! ### Starting and running -/

theorem postRun_keeps (h : session.Clear a) (hshown : a.shown = a.last)
    (hbooting : a.booting = false) (hidle : a.runs = a.replies) (code : String) (result : Reply) :
    (session.postRun code result).Keeps a := by
  have hagrees := h.agrees
  have hsame := hagrees.live
  cases hlive : a.live with
  | none =>
      rw [hlive] at hsame
      simp only [postRun, hsame]
      exact fail_keeps h hbooting _
  | some worker =>
      rw [hlive] at hsame
      simp only [postRun, hsame]
      refine ⟨h.delivered, fun answer => ⟨⟨hlive, hbooting, hidle, hshown⟩, ?_⟩⟩
      rcases answer with cause | ⟨⟨⟩⟩
      · refine giveUp_keeps h.toSteady hshown (fun hpending => ?_) _
        have := (hagrees.pending_run h.sound).mp hpending
        omega
      · refine reply_keeps (a := a.posted worker (.run code))
          ⟨⟨?_, h.sound.ran code hlive hbooting hidle hshown, h.unborn, h.delivered⟩, h.lost⟩
          hbooting result
        exact { hagrees with
          live := hlive.symm
          pending := by simp [Account.posted, hbooting, hidle]
          last := rfl }

theorem afterBoot_keeps (h : session.Clear a) (hshown : a.shown = a.last)
    (hbooting : a.booting = false) (hidle : a.runs = a.replies) (next : AfterBoot) :
    (session.afterBoot next).Keeps a := by
  cases next with
  | reply => exact reply_keeps h hbooting _
  | run code result => exact postRun_keeps h hshown hbooting hidle code result

theorem awaitBoot_keeps (h : session.Clear a)
    (hidle : a.booting = false → a.shown = a.last ∧ a.runs = a.replies) (next : AfterBoot) :
    (session.awaitBoot next).Keeps a := by
  have hinit := h.agrees.pending_init
  simp only [awaitBoot]
  cases hbooting : a.booting with
  | true =>
      rw [if_pos (hinit.mpr hbooting)]
      refine listen_keeps h hbooting fun hlive => ?_
      simp [(h.sound.dead hlive).2.2.2.2.1] at hbooting
  | false =>
      obtain ⟨hshown, hruns⟩ := hidle hbooting
      rw [if_neg (by simp [hinit, hbooting])]
      split
      · exact afterBoot_keeps h hshown hbooting hruns next
      · exact fail_keeps h hbooting _

theorem spawn_keeps (h : session.Clear a) (hlive : a.live = none)
    (hcontent : a.content = some .empty) (next : AfterBoot) : (session.spawn next).Keeps a := by
  have hagrees := h.agrees
  obtain ⟨-, -, -, -, hbooting, -⟩ := h.sound.dead hlive
  refine ⟨h.delivered, fun answer => ⟨⟨hlive, h.unborn, hcontent⟩, ?_⟩⟩
  rcases answer with cause | ⟨⟨⟩⟩
  · exact fail_keeps h hbooting _
  · have hnumber := congrArg some hagrees.spawned.symm
    have hborn : (a.did (.spawned (.ok ()))).Sound := h.sound.spawned hlive hcontent
    refine ⟨h.delivered, fun answer => ⟨⟨hlive, hnumber, ?_⟩, ?_⟩⟩
    · simp only [hagrees.config, hagrees.url]
      rfl
    · rcases answer with cause | ⟨⟨⟩⟩
      · refine ⟨h.delivered, ⟨hlive, hnumber⟩, ?_⟩
        refine fail_keeps (a := (a.did (.spawned (.ok ()))).did (.discarded session.spawned))
          ⟨⟨?_, hborn.did ⟨hlive, hnumber⟩, rfl, h.delivered⟩, h.lost⟩ hbooting _
        exact { hagrees with spawned := congrArg (· + 1) hagrees.spawned }
      · refine awaitBoot_keeps (a := (a.did (.spawned (.ok ()))).posted session.spawned
          (.boot session.config session.bufferUrl))
          ⟨⟨?_, hborn.booted _ hlive hnumber, rfl, h.delivered⟩, h.lost⟩ (by rintro ⟨⟩) next
        exact { hagrees with
          phase := rfl
          live := rfl
          spawned := congrArg (· + 1) hagrees.spawned
          pending := rfl }

theorem launch_keeps (h : session.Clear a) (hshown : a.shown = a.last)
    (next : AfterBoot) : (session.launch next).Keeps a := by
  obtain ⟨hlive, hbooting, -⟩ := h.sound.letGo_fields
  have hleft := h.letGo hshown .terminated fun _ => by simp [h.lost]
  have hagrees := hleft.agrees.printRejection session.pending
  refine letGo_keeps h.toSteady hshown
    ⟨hleft.delivered, fun answer => ⟨⟨hleft.unborn, .inl hlive⟩, ?_⟩⟩
  rcases answer with cause | ⟨⟨⟩⟩
  · refine fail_keeps (hleft.agreeing ?_) hbooting _
    exact { hagrees with }
  · refine spawn_keeps (a := a.letGo.wrote .empty)
      ⟨⟨?_, hleft.sound.wrote .empty hleft.unborn (by rintro _ _ _ ⟨⟩), hleft.unborn,
        hleft.delivered⟩, hleft.lost⟩
      hlive rfl next
    exact { hagrees with }

theorem submit_keeps (h : session.Clear a) (hshown : a.shown = a.last)
    (hbooting : a.booting = false) (code : String) (result : Reply) :
    (session.submit code result).Keeps a := by
  have hrun := h.agrees.isRunPending h.sound
  simp only [submit]
  split
  · exact fail_keeps h hbooting _
  · rename_i hidle
    rw [hrun] at hidle
    split
    · have hle := h.sound.replies_le
      exact postRun_keeps h hshown hbooting (by omega) code result
    · exact launch_keeps h hshown _

theorem runSource_keeps (h : session.Clear a) (hshown : a.shown = a.last)
    (hbooting : a.booting = false) (name : String) (text : Except IoError String) :
    (session.runSource name text).Keeps a := by
  have hagrees := h.agrees
  cases text with
  | error cause => exact fail_keeps h hbooting _
  | ok code =>
      refine launch_keeps (h.agreeing ?_) hshown _
      exact { hagrees with awaiting := by rintro ⟨⟩ }

theorem teardown_keeps (h : session.Clear a) (hshown : a.shown = a.last) :
    session.teardown.Keeps a := by
  obtain ⟨hlive, hbooting, -⟩ := h.sound.letGo_fields
  have hleft := h.letGo hshown .terminated fun _ => by simp [h.lost]
  refine letGo_keeps h.toSteady hshown ⟨hleft.delivered, fun answer => ⟨⟨hleft.unborn, hlive⟩, ?_⟩⟩
  rcases answer with cause | ⟨⟨⟩⟩
  · exact reply_keeps hleft hbooting _
  · refine reply_keeps (a := a.letGo.wrote .closed)
      ⟨⟨?_, hleft.sound.wrote .closed hleft.unborn (by rintro _ _ _ ⟨⟩), hleft.unborn,
        hleft.delivered⟩, hleft.lost⟩
      hbooting _
    have hagrees := hleft.agrees
    exact { hagrees with }

/-! ### Lines of input -/

/-- A line is written only for the request that was open when the call came. -/
theorem writeInput_keeps (h : session.Clear a) (hbooting : a.booting = false)
    (hmeant : session.request = a.meant) (hnot : session.isAwaitingInput = false)
    {text : String} {result : Reply}
    (hsupplies : ∃ call, a.call = some call ∧ call.Supplies result text) :
    (session.writeInput text result).Keeps a := by
  have hagrees := h.agrees
  cases hrequest : session.request with
  | none =>
      simp only [writeInput, hrequest]
      exact fail_keeps h hbooting _
  | some request =>
      simp only [writeInput, hrequest]
      have hopen : a.request = some request := hagrees.request.symm.trans hrequest
      refine ⟨h.delivered, fun answer =>
        ⟨⟨hopen, hmeant.symm.trans hrequest, hagrees.sequence⟩, ?_⟩⟩
      rcases answer with cause | ⟨⟨⟩⟩
      · exact fail_keeps h hbooting _
      · refine ⟨{ hagrees with request := rfl, sequence := ?sequence, awaiting := ?awaiting },
          h.unborn, hbooting, h.lost, ?confirms⟩
        case sequence => simp [Session.print, Account.did, Account.wrote, hagrees.sequence]
        case awaiting =>
          intro hawaiting
          exact absurd (hnot.symm.trans hawaiting) (by simp)
        case confirms =>
          intro written hwritten
          obtain rfl : text = written := by
            simpa [Account.did, Account.wrote] using hwritten
          obtain ⟨call, hcall, hsupply⟩ := hsupplies
          exact ⟨call, result, hcall, rfl, hsupply⟩

theorem runStatement_keeps (h : session.Clear a) (hshown : a.shown = a.last)
    (hbooting : a.booting = false) (source : String) :
    (session.runStatement source).Keeps a := by
  have hagrees := h.agrees
  refine submit_keeps (h.agreeing ?_) hshown hbooting _ _
  exact { hagrees with }

theorem push_of_not_awaiting {buffer : StatementBuffer} (hnot : buffer.awaitingInput = false)
    (line taken : String) : (buffer.push line).1 ≠ .input taken := by
  simp only [StatementBuffer.push, hnot, Bool.false_eq_true, if_false]
  split
  · exact by rintro ⟨⟩
  · split <;> exact by rintro ⟨⟩

theorem takeLine_keeps (h : session.Clear a) (hshown : a.shown = a.last)
    (hbooting : a.booting = false) {text : String}
    (hanswer : session.isAwaitingInput = true →
      session.request = a.meant ∧ a.call = some (.line text)) :
    (session.takeLine text).Keeps a := by
  have hagrees := h.agrees
  cases hawaiting : session.isAwaitingInput with
  | true =>
      obtain ⟨hmeant, hcall⟩ := hanswer hawaiting
      have hpush : session.statements.push text =
          (.input (String.ofList (Text.dropLineEnd text.toList)), .empty) := if_pos hawaiting
      simp only [takeLine, hpush]
      have hanswered : ({ session with statements := .empty } : Session).Clear a :=
        h.agreeing { hagrees with awaiting := by rintro ⟨⟩ }
      exact writeInput_keeps hanswered hbooting hmeant rfl ⟨.line text, hcall, rfl, rfl⟩
  | false =>
      have hnone := push_of_not_awaiting hawaiting text
      have hstill : (session.statements.push text).2.awaitingInput = false := by
        simp only [StatementBuffer.push,
          show session.statements.awaitingInput = false from hawaiting,
          Bool.false_eq_true, if_false]
        split
        · exact hawaiting
        · split <;> rfl
      rcases hpush : session.statements.push text with ⟨outcome, statements⟩
      rw [hpush] at hnone hstill
      have htaken : ({ session with statements } : Session).Clear a := by
        refine h.agreeing { hagrees with awaiting := fun hawait => ?_ }
        exact absurd (hstill.symm.trans hawait) (by simp)
      simp only [takeLine, hpush]
      cases outcome with
      | ignored => exact reply_keeps htaken hbooting _
      | incomplete => exact reply_keeps htaken hbooting _
      | statement source => exact runStatement_keeps htaken hshown hbooting source
      | input line => exact absurd rfl (hnone line)

/-! ### Calls and what is heard meanwhile -/

theorem isOpen_eq {request : Option UInt64} (hopen : session.isOpen request = true) :
    session.request = request := by
  simp only [isOpen, Bool.and_eq_true, beq_iff_eq] at hopen
  exact hopen.2

theorem afterPoll_keeps (h : session.Clear a) (hshown : a.shown = a.last) {next : AfterPoll}
    (hheeds : Heeds a (.poll next)) : (session.afterPoll next).Keeps a := by
  have hagrees := h.agrees
  cases next with
  | reply => exact reply_keeps h hheeds _
  | line request text =>
      obtain ⟨hbooting, hcall, hmeant⟩ := hheeds
      simp only [afterPoll]
      split
      · rename_i hopen
        have hrequest : session.request = a.meant := (isOpen_eq hopen).trans hmeant
        exact takeLine_keeps h hshown hbooting fun _ => ⟨hrequest, hcall⟩
      · exact fail_keeps h hbooting _
  | deliver request text =>
      obtain ⟨hbooting, hcall, hmeant⟩ := hheeds
      simp only [afterPoll]
      split
      · rename_i hopen
        have hrequest : session.request = a.meant := (isOpen_eq hopen).trans hmeant
        let answered :=
          { session with statements := session.statements.setAwaitingInput false }
        have hanswered : answered.Clear a :=
          h.agreeing { hagrees with awaiting := by rintro ⟨⟩ }
        exact writeInput_keeps hanswered hbooting hrequest rfl ⟨.deliver text, hcall, rfl⟩
      · exact fail_keeps h hbooting _

theorem awaitSilence_keeps (h : session.Clear a) (hshown : a.shown = a.last) {next : AfterPoll}
    (hheeds : Heeds a (.poll next)) : (session.awaitSilence next).Keeps a := by
  have hsame := h.agrees.live
  simp only [awaitSilence]
  split
  · exact afterPoll_keeps h hshown hheeds
  · rename_i worker hlive
    exact listen_keeps h hheeds (by simp [← hsame, hlive])

theorem awaitQuiet_keeps (h : session.Clear a) (hbooting : a.booting = false)
    (limit : Option Duration) : (session.awaitQuiet limit).Keeps a := by
  have hagrees := h.agrees
  simp only [awaitQuiet]
  split
  · refine reply_keeps (h.agreeing ?_) hbooting _
    exact { hagrees with }
  · split
    · exact reply_keeps h hbooting _
    · rename_i hpending
      refine listen_keeps h hbooting fun hlive => hpending ?_
      simp [hagrees.pending, hbooting, (h.sound.dead hlive).1]

/-- Every call keeps to the account, which has just noted it. -/
theorem call_keeps (h : session.Clear a) (hshown : a.shown = a.last) (hbooting : a.booting = false)
    (call : Call) : (session.call call).Keeps (a.note (.called call)) := by
  have hagrees := h.agrees
  have hcalled : session.Clear (a.note (.called call)) :=
    ⟨⟨{ hagrees with }, h.sound.called call, h.unborn, h.delivered⟩, h.lost⟩
  cases call with
  | start => exact launch_keeps hcalled hshown .reply
  | submit code => exact submit_keeps hcalled hshown hbooting code .done
  | line text =>
      simp only [Session.call, line]
      split
      · exact awaitSilence_keeps hcalled hshown ⟨hbooting, rfl, hagrees.request⟩
      · split
        · exact fail_keeps hcalled hbooting _
        · rename_i hnot _
          exact takeLine_keeps hcalled hshown hbooting fun hawaiting => absurd hawaiting hnot
  | deliver text =>
      simp only [Session.call, deliver]
      split
      · exact awaitSilence_keeps hcalled hshown ⟨hbooting, rfl, hagrees.request⟩
      · exact fail_keeps hcalled hbooting _
  | poll => exact awaitSilence_keeps hcalled hshown hbooting
  | wait limit => exact awaitQuiet_keeps hcalled hbooting limit
  | runSource name text => exact runSource_keeps hcalled hshown hbooting name text
  | teardown => exact teardown_keeps hcalled hshown

/-- A session that goes on listening heeds its account, or it has just heard that the worker has
booted. -/
theorem resume_keeps (h : session.Clear a) (hlive : a.live ≠ none) {listening : Listening}
    (hheeds : Heeds a listening ∨
      (∃ next, listening = .boot next) ∧ a.booting = false ∧ a.shown = a.last ∧
        a.runs = a.replies) :
    (session.resume listening).Keeps a := by
  rcases hheeds with hheeds | ⟨⟨next, rfl⟩, hbooted⟩
  · cases listening with
    | boot next =>
        exact awaitBoot_keeps h (fun hnot => absurd (hnot.symm.trans hheeds) (by rintro ⟨⟩)) next
    | wait limit => exact awaitQuiet_keeps h hheeds limit
    | poll next =>
        have hsame := h.agrees.live
        obtain ⟨worker, hworker⟩ := Option.ne_none_iff_exists'.mp hlive
        simp only [resume, awaitSilence, hsame, hworker]
        exact listen_keeps h hheeds hlive
  · exact awaitBoot_keeps h (fun _ => hbooted.2) next

theorem Heeds.heard {listening : Listening} (hheeds : Heeds a listening) {event : Event}
    (hevent : ∀ success error, event ≠ .init success error) :
    Heeds (a.heard (.event event)) listening := by
  cases event with
  | init success error => exact absurd rfl (hevent success error)
  | _ => cases listening with
    | poll next => cases next <;> exact hheeds
    | _ => exact hheeds

theorem printSome_lastRun (session : Session) (kind : EntryKind) (text : Option String)
    (last : Option RunOutcome) :
    { session.printSome kind text with lastRun := last } =
      ({ session with lastRun := last } : Session).printSome kind text := by
  cases text with
  | none => rfl
  | some text =>
      by_cases hempty : text = ""
      · simp only [Session.printSome, hempty, if_true]
      · simp only [Session.printSome, hempty, if_false, Session.print]

theorem takeRun_agrees (h : session.Agrees a) (hsound : a.Sound) (hwaits : a.replies < a.runs)
    (success : Bool) (output error : Option String) :
    (session.takeRun success output error).Agrees
      (a.heard (.event (.run success output error))) := by
  have hle := hsound.runs_le
  have hboots := hsound.booting
  have hbooting : a.booting = false := by
    cases hcase : a.booting with
    | false => rfl
    | true =>
        have := hboots hcase
        omega
  have hidle : ¬ a.replies + 1 < a.runs := by omega
  have hended : ∀ last, ({ session.closeRequest with pending := none, lastRun := last } :
      Session).Agrees { a with replies := a.replies + 1, request := none, last := last } :=
    fun last => { h with
      pending := by simp [hbooting, hidle]
      last := rfl
      request := rfl
      awaiting := by rintro ⟨⟩ }
  simp only [takeRun, (h.isRunPending hsound).mpr hwaits, if_true]
  cases success with
  | true =>
      rw [if_pos rfl, printSome_lastRun]
      exact (hended (some (.completed output))).printSome .output output
  | false => exact (hended (some (.failed (error.getD unknownError)))).print .error _

theorem openRequest_agrees (h : session.Agrees a) (request : UInt64) (prompt : Option String) :
    (session.openRequest request prompt).Agrees
      (a.heard (.event (.input request prompt))) := by
  have hagrees := h.printSome .output prompt
  exact { hagrees with request := rfl, awaiting := fun _ => by rintro ⟨⟩ }

theorem Heeds.exists_boot {listening : Listening} (h : Heeds a listening)
    (hbooting : a.booting = true) : ∃ next, listening = .boot next := by
  have hnot : a.booting ≠ false := by
    rw [hbooting]
    rintro ⟨⟩
  cases listening with
  | boot next => exact ⟨next, rfl⟩
  | wait limit => exact absurd h hnot
  | poll next =>
      cases next with
      | reply => exact absurd h hnot
      | line request text => exact absurd h.1 hnot
      | deliver request text => exact absurd h.1 hnot

theorem Clear.ready (h : session.Clear a) {worker : Nat} (hlive : a.live = some worker)
    (hshown : a.shown = a.last) (hbooting : a.booting = true) (success : Bool)
    (error : Option String) :
    ({ session with pending := none, phase := .ready } : Session).Clear
      (a.heard (.event (.init success error))) := by
  have hsound : (a.heard (.event (.init success error))).Sound := h.sound.heard hlive hshown trivial
  have hruns := h.sound.booting hbooting
  refine ⟨⟨{ h.agrees with phase := ?phase, pending := ?pending }, hsound, h.unborn, h.delivered⟩,
    h.lost⟩
  case phase => simp [Account.heard, hlive]
  case pending => simp [Account.heard, hruns]

theorem hearBoot_keeps (h : session.Clear a) {worker : Nat} (hlive : a.live = some worker)
    (hshown : a.shown = a.last) {listening : Listening} (hheeds : Heeds a listening)
    (success : Bool) (error : Option String) :
    (session.hear listening (.event (.init success error))).Keeps
      (a.heard (.event (.init success error))) := by
  have hinit := h.agrees.pending_init
  have hsome : a.live ≠ none := by simp [hlive]
  cases hbooting : a.booting with
  | true =>
      have hready := h.ready hlive hshown hbooting success error
      have hidle : a.runs = a.replies := by
        have hruns := h.sound.booting hbooting
        have hle := h.sound.replies_le
        omega
      obtain ⟨next, rfl⟩ := hheeds.exists_boot hbooting
      cases success with
      | true =>
          have hmove : session.hear (.boot next) (.event (.init true error)) =
              ({ session with pending := none, phase := .ready } : Session).resume
                (.boot next) := by
            simp only [hear, take, takeBoot, hinit.mpr hbooting, if_true]
            rfl
          rw [hmove]
          exact resume_keeps hready hsome (.inr ⟨⟨next, rfl⟩, rfl, hshown, hidle⟩)
      | false =>
          have hmove : session.hear (.boot next) (.event (.init false error)) =
              (({ session with
                pending := none
                phase := .ready
                bootError := some (error.getD unknownError) } : Session).letGo .terminated).bind
                fun left => left.resume (.boot next) := by
            simp only [hear, take, takeBoot, hinit.mpr hbooting, if_true, Bool.false_eq_true,
              if_false]
            rfl
          have hrefused : ({ session with
              pending := none
              phase := .ready
              bootError := some (error.getD unknownError) } : Session).Clear
              (a.heard (.event (.init false error))) :=
            hready.agreeing { hready.agrees with }
          rw [hmove]
          refine letGo_keeps hrefused.toSteady hshown ?_
          have hleft := hrefused.letGo hshown .terminated (by rintro ⟨⟩)
          refine awaitBoot_keeps hleft (fun _ => ?_) next
          rw [Account.letGo_of_live (a := a.heard (.event (.init false error))) hlive]
          refine ⟨hshown.trans ?_, rfl⟩
          simp [Account.release, Account.heard, hidle]
  | false =>
      have hmove : session.hear listening (.event (.init success error)) =
          session.resume listening := by
        simp only [hear, take, takeBoot, hinit, hbooting, Bool.false_eq_true, if_false]
        rfl
      have hsame : a.heard (.event (.init success error)) = a := by
        simp only [Account.heard, ← hbooting]
      rw [hmove, hsame]
      exact resume_keeps h hsome (.inl hheeds)

/-- Whatever a session does with what it hears keeps to the account, which has just noted it. -/
theorem hear_keeps (h : session.Clear a) {worker : Nat} (hlive : a.live = some worker)
    (hshown : a.shown = a.last) {listening : Listening} (hheeds : Heeds a listening)
    {heard : Heard} (hexpects : a.Expects heard) :
    (session.hear listening heard).Keeps (a.note (.heard worker heard)) := by
  have hagrees := h.agrees
  have hsound : (a.heard heard).Sound := h.sound.heard hlive hshown hexpects
  have hsome : a.live ≠ none := by simp [hlive]
  cases heard with
  | quiet =>
      cases listening with
      | boot next =>
          refine giveUp_keeps h.toSteady hshown (fun hrun => ?_) _
          rw [hagrees.pending_init.mpr hheeds] at hrun
          cases hrun
      | wait limit => exact reply_keeps h hheeds _
      | poll next => exact afterPoll_keeps h hshown hheeds
  | gone =>
      refine giveUp_keeps (a := a.heard .gone) ⟨?_, hsound, h.unborn, h.delivered⟩ hshown
        (fun _ => rfl) _
      exact { hagrees with }
  | event event =>
      cases event with
      | init success error => exact hearBoot_keeps h hlive hshown hheeds success error
      | run success output error =>
          refine resume_keeps ⟨⟨?_, hsound, h.unborn, h.delivered⟩, h.lost⟩ hsome
            (.inl (hheeds.heard (by rintro _ _ ⟨⟩)))
          exact takeRun_agrees hagrees h.sound hexpects success output error
      | stdout text =>
          exact resume_keeps (h.agreeing (hagrees.print .output text)) hsome (.inl hheeds)
      | stderr text =>
          exact resume_keeps (h.agreeing (hagrees.print .error text)) hsome (.inl hheeds)
      | input request prompt =>
          have hopen := openRequest_agrees hagrees request prompt
          refine ⟨h.delivered, fun answer => ⟨⟨h.unborn, .inr (by rintro ⟨⟩)⟩, ?_⟩⟩
          rcases answer with cause | ⟨⟨⟩⟩
          · exact resume_keeps ⟨⟨hopen, hsound, h.unborn, h.delivered⟩, h.lost⟩ hsome
              (.inl (hheeds.heard (by rintro _ _ ⟨⟩)))
          · refine resume_keeps (a := (a.heard (.event (.input request prompt))).wrote .empty)
              ⟨⟨?_, hsound.wrote .empty h.unborn (by rintro _ _ _ ⟨⟩), h.unborn, h.delivered⟩,
                h.lost⟩ hsome (.inl ?_)
            · exact { hopen with }
            · cases listening with
              | poll next => cases next <;> exact hheeds
              | _ => exact hheeds

end Session
end ScriptConsole
