import ScriptConsole.Proofs.Session.Monitor

/-!
Calls come to an end. However its deeds are answered, a session goes on to a reply as long as its
worker does not keep it listening by saying more and more.
-/

namespace ScriptConsole

/-- However its deeds are answered, the move comes to a reply if something is heard whenever it
listens, and no more than `n` events in all. -/
inductive Move.Ends : Nat → Move → Prop where
  | reply (n : Nat) (result : Except SessionError Reply) (session : Session) :
      Ends n (.done (.reply result, session))
  | write {n : Nat} {content : Content} {next : Except BufferError Unit → Move}
      (h : ∀ answer, Ends n (next answer)) : Ends n (.write content next)
  | spawn {n : Nat} {next : Except TransportError Unit → Move}
      (h : ∀ answer, Ends n (next answer)) : Ends n (.spawn next)
  | post {n worker : Nat} {command : Command} {next : Except TransportError Unit → Move}
      (h : ∀ answer, Ends n (next answer)) : Ends n (.post worker command next)
  | terminate {n worker : Nat} {next : Unit → Move} (h : Ends n (next ())) :
      Ends n (.terminate worker next)
  | discard {n worker : Nat} {next : Unit → Move} (h : Ends n (next ())) :
      Ends n (.discard worker next)
  | listen {n : Nat} {session : Session} {goal : Listening} (hlive : session.live ≠ none)
      (hevent : ∀ m < n, ∀ event, Ends m (session.hear goal (.event event)))
      (hquiet : Ends n (session.hear goal .quiet)) (hgone : Ends n (session.hear goal .gone)) :
      Ends n (.done (.listen goal, session))

namespace Session

variable {session : Session} {n : Nat}

theorem letGo_ends {reason : Pending → TransportError} {next : Session → Move}
    (hnext : (next (session.abandon reason)).Ends n) :
    Move.Ends n (session.letGo reason >>= next) := by
  rw [letGo]
  cases session.live with
  | none => exact hnext
  | some worker => exact .terminate hnext

theorem giveUp_ends (session : Session) (reason : Pending → TransportError)
    (error : SessionError) : Move.Ends n (do (← session.letGo reason).fail error) :=
  letGo_ends (.reply n _ _)

theorem listen_ends {goal : Listening}
    (hevent : ∀ m < n, ∀ event, (session.hear goal (.event event)).Ends m)
    (hquiet : (session.expire goal).Ends n) : (session.listen goal).Ends n := by
  rw [listen]
  cases hlive : session.live with
  | none => exact .reply n _ session
  | some worker =>
      refine .listen ?_ hevent hquiet (giveUp_ends session _ _)
      rw [hlive]
      rintro ⟨⟩

theorem take_ends (session : Session) (event : Event) {next : Session → Move}
    (hnext : ∀ taken, (next taken).Ends n) : Move.Ends n (session.take event >>= next) := by
  cases event with
  | init success error =>
      rw [take, takeBoot]
      split
      · split
        · exact hnext _
        · exact letGo_ends (hnext _)
      · exact hnext session
  | run success output error => exact hnext _
  | stdout text => exact hnext _
  | stderr text => exact hnext _
  | input request prompt => exact .write fun _ => hnext _

/-! ### Running a text -/

theorem postRun_ends (session : Session) (code : String) (result : Reply) :
    (session.postRun code result).Ends n := by
  rw [postRun]
  split
  · exact .reply n _ session
  · apply Move.Ends.post
    rintro (cause | ⟨⟨⟩⟩)
    · exact giveUp_ends session _ _
    · exact .reply n _ _

/-- Every event that is heard while a worker boots leaves fewer that may come. -/
theorem awaitBoot_ends (n : Nat) (session : Session) (next : AfterBoot) :
    (session.awaitBoot next).Ends n := by
  induction n using Nat.strongRecOn generalizing session with
  | _ n ih =>
  rw [awaitBoot]
  split
  · apply listen_ends
    · intro m hfewer event
      exact session.take_ends event (ih m hfewer)
    · exact giveUp_ends session _ _
  · split
    · cases next with
      | reply => exact .reply n _ session
      | run code result => exact session.postRun_ends code result
    · exact .reply n _ session

theorem spawn_ends (session : Session) (next : AfterBoot) : (session.spawn next).Ends n := by
  apply Move.Ends.spawn
  rintro (cause | ⟨⟨⟩⟩)
  · exact .reply n _ session
  · apply Move.Ends.post
    rintro (cause | ⟨⟨⟩⟩)
    · exact .discard (.reply n _ _)
    · exact awaitBoot_ends n _ next

theorem launch_ends (session : Session) (next : AfterBoot) : (session.launch next).Ends n := by
  apply letGo_ends
  apply Move.Ends.write
  rintro (cause | ⟨⟨⟩⟩)
  · exact .reply n _ _
  · exact spawn_ends _ next

theorem submit_ends (session : Session) (code : String) (result : Reply) :
    (session.submit code result).Ends n := by
  rw [submit]
  split
  · exact .reply n _ session
  · split
    · exact session.postRun_ends code result
    · exact session.launch_ends (.run code result)

/-! ### Typed lines -/

theorem writeInput_ends (session : Session) (text : String) (result : Reply) :
    (session.writeInput text result).Ends n := by
  rw [writeInput]
  split
  · exact .reply n _ session
  · apply Move.Ends.write
    rintro (cause | ⟨⟨⟩⟩)
    · exact .reply n _ session
    · exact .reply n _ _

theorem takeLine_ends (session : Session) (text : String) : (session.takeLine text).Ends n := by
  rw [takeLine]
  generalize session.statements.push text = pushed
  obtain ⟨outcome, statements⟩ := pushed
  cases outcome with
  | statement source => exact submit_ends _ source _
  | input line => exact writeInput_ends _ line _
  | ignored => exact .reply n _ _
  | incomplete => exact .reply n _ _

theorem afterPoll_ends (session : Session) (next : AfterPoll) :
    (session.afterPoll next).Ends n := by
  cases next with
  | reply => exact .reply n _ session
  | line request text =>
      rw [afterPoll]
      split
      · exact session.takeLine_ends text
      · exact .reply n _ session
  | deliver request text =>
      rw [afterPoll]
      split
      · exact writeInput_ends _ text _
      · exact .reply n _ session

theorem awaitSilence_ends (n : Nat) (session : Session) (next : AfterPoll) :
    (session.awaitSilence next).Ends n := by
  induction n using Nat.strongRecOn generalizing session with
  | _ n ih =>
  rw [awaitSilence]
  split
  · exact session.afterPoll_ends next
  · apply listen_ends
    · intro m hfewer event
      exact session.take_ends event (ih m hfewer)
    · exact session.afterPoll_ends next

theorem awaitQuiet_ends (n : Nat) (session : Session) (limit : Option Duration) :
    (session.awaitQuiet limit).Ends n := by
  induction n using Nat.strongRecOn generalizing session with
  | _ n ih =>
  rw [awaitQuiet]
  split
  · exact .reply n _ _
  · split
    · exact .reply n _ session
    · apply listen_ends
      · intro m hfewer event
        exact session.take_ends event (ih m hfewer)
      · exact .reply n _ session

/-! ### Calls -/

/-- Whatever a session is called for, it replies in the end, unless events never cease. -/
theorem call_ends (n : Nat) (session : Session) (call : Call) : (session.call call).Ends n := by
  cases call with
  | start => exact session.launch_ends .reply
  | submit code => exact session.submit_ends code .done
  | line text =>
      rw [Session.call, line]
      split
      · exact awaitSilence_ends n session _
      · split
        · exact .reply n _ session
        · exact session.takeLine_ends text
  | deliver text =>
      rw [Session.call, deliver]
      split
      · exact awaitSilence_ends n session _
      · exact .reply n _ session
  | poll => exact awaitSilence_ends n session .reply
  | wait limit => exact awaitQuiet_ends n session limit
  | runSource name text =>
      cases text with
      | error cause => exact .reply n _ session
      | ok code => exact launch_ends _ _
  | teardown => exact letGo_ends (.write fun _ => .reply n _ _)

end Session
end ScriptConsole
