import ScriptConsole.Proofs.System.Run

/-!
Lines of input on their way from the user to a script. A worker gets the line that was supplied
for its request and no other, each line at most once; and a line that was written for the request
of a worker waits in the buffer until the worker takes it.
-/

namespace ScriptConsole

variable {σ : Type}

/-- An interpreter whose texts ask for a line and give it back. -/
def Interpreter.asker : Interpreter Unit where
  boot _ := .ready ()
  load _ state := .done (.ok (), state)
  run _ state := .stdin none fun answer => .done (.ok answer.toOption, state)

/-- What a worker waits for: it looks at the buffer, or is about to. -/
def Task.wait? (now : Nat) : Task σ → Option Bridge.Wait
  | .busy (.await bridge request _) => some (bridge.await request now)
  | .waiting wait _ => some wait
  | _ => none

theorem Task.Fits.asking {source : BufferSource} {url : String} {mode : Mode} {task : Task σ}
    {now : Nat} {wait : Bridge.Wait} (h : task.Fits source url mode)
    (hwait : task.wait? now = some wait) : mode = .asking wait.bridge wait.request := by
  cases h with
  | waiting hnext =>
      cases hwait
      rfl
  | busy hwork =>
      cases hwork <;> cases hwait
      rfl
  | _ => cases hwait

namespace Session

/-- A request of the worker has ended with the text as its line, and the session has not let go
of the worker before. -/
def Returns (log : List Note) (place worker : Nat) (request : UInt64) (text : String) : Prop :=
  log[place]? = some (.ended worker request (.ok text)) ∧
    ∀ note ∈ log.take place, ¬ note.IsParting worker

instance (log : List Note) (place worker : Nat) (request : UInt64) (text : String) :
    Decidable (Returns log place worker request text) :=
  inferInstanceAs (Decidable (_ ∧ _))

/-- A call has ended well that supplied the text, while the request of the worker was the last
that was heard of it. -/
def Supplied (log : List Note) (place worker : Nat) (request : UInt64) (text : String) : Prop :=
  ∃ call reply, log[place]? = some (.replied (.ok reply)) ∧ Calls (log.take place) call ∧
    call.Supplies reply text ∧ Asks (log.take place) worker request

end Session

/-- The note right before the place after it says that the content was written. -/
def Note.Wrote (log : List Note) (after : Nat) (content : Content) : Prop :=
  ∃ before, after = before + 1 ∧ log[before]? = some (.did (.wrote content (.ok ())))

theorem Session.Asks.snoc {log : List Note} {worker : Nat} {request : UInt64}
    (h : Session.Asks log worker request) {note : Note} (hnote : ¬ note.Supersedes worker) :
    Session.Asks (log ++ [note]) worker request := by
  obtain ⟨before, prompt, since, rfl, hsince⟩ := h
  refine ⟨before, prompt, since ++ [note], by simp, fun other hmem => ?_⟩
  rcases List.mem_append.mp hmem with hmem | hmem
  · exact hsince other hmem
  · rwa [List.mem_singleton.mp hmem]

/-- Nothing but the reply to the call comes right after a line was written for it. -/
theorem Account.exists_replied {a : Account} {text : String} {since : List Note}
    (h : a.Allows since) (hdelivered : a.delivered = some text)
    (hended : (since.foldl Account.note a).delivered = none) :
    ∃ call reply rest, since = .replied (.ok reply) :: rest ∧ a.call = some call ∧
      call.Supplies reply text := by
  cases since with
  | nil => cases hdelivered.symm.trans hended
  | cons note rest =>
      have hpermits := h.1
      have hbusy {p : Prop} (hnone : a.delivered = none) : p := by
        cases hdelivered.symm.trans hnone
      cases note with
      | replied result =>
          obtain ⟨call, reply, hcall, rfl, hsupplies⟩ := hpermits text hdelivered
          exact ⟨call, reply, rest, rfl, hcall, hsupplies⟩
      | did done => exact hbusy hpermits.1
      | heard worker heard => exact hbusy hpermits.1
      | showed session => exact hbusy hpermits.1
      | _ => exact hbusy hpermits

/-- Up to as many requests as there are numbers, requests with the same number are the same. -/
theorem eq_of_ofNat_pred_eq {m n : Nat} (hm : 0 < m) (hle : m ≤ n) (hfew : n ≤ UInt64.size)
    (hsame : UInt64.ofNat (m - 1) = UInt64.ofNat (n - 1)) : m = n := by
  have hlast := congrArg UInt64.toNat hsame
  rw [UInt64.toNat_ofNat', UInt64.toNat_ofNat'] at hlast
  rw [UInt64.size] at hfew
  omega

namespace System

variable {config : Config} {url : String} {log : List Note} {system : System σ}

/-- What the log told when the request ended. -/
theorem Follows.returned {place worker : Nat} {request : UInt64} {text : String}
    (h : system.Follows config url log) (hreturns : Session.Returns log place worker request text) :
    log = log.take place ++ .ended worker request (.ok text) :: log.drop (place + 1) ∧
      Orderly config url (log.take place) ∧
      (Account.new config url).Along Account.Genuine (log.take place) ∧
      (account config url (log.take place)).delivered = none ∧
      (account config url (log.take place)).live = some worker ∧
      (account config url (log.take place)).Genuine (.ended worker request (.ok text)) := by
  obtain ⟨hended, hheld⟩ := hreturns
  obtain ⟨hlt, hget⟩ := List.getElem?_eq_some_iff.mp hended
  have hlog : log = log.take place ++ .ended worker request (.ok text) :: log.drop (place + 1) := by
    rw [← hget, List.getElem_cons_drop, List.take_append_drop]
  have horderly := h.orderly
  have hgenuine := h.genuine
  rw [hlog] at horderly hgenuine
  obtain ⟨hbefore, hpermits, -⟩ := Orderly.append.mp horderly
  obtain ⟨hearlier, htrue, -⟩ := Account.along_append.mp hgenuine
  obtain ⟨hspawned, hunborn, -⟩ := id htrue
  refine ⟨hlog, hbefore, hearlier, hpermits, ?_, htrue⟩
  rcases hbefore.held hspawned with hlive | hborn | ⟨note, hmem, hnote⟩
  · exact hlive
  · exact absurd hborn hunborn
  · exact absurd hnote (hheld note hmem)

/-- A line that a worker takes was written for it, and the call that wrote it has ended since. -/
theorem Follows.supply {place worker : Nat} {request : UInt64} {text : String}
    (h : system.Follows config url log) (hreturns : Session.Returns log place worker request text) :
    ∃ after, after < place ∧ Session.Supplied log after worker request text ∧
      ((Session.asked worker (log.take place)).length ≤ UInt64.size →
        (Session.requests worker (log.take after)).length =
          (Session.asked worker (log.take place)).length) ∧
      ∃ content, (account config url (log.take place)).content = some content ∧
        Note.Wrote log after content := by
  obtain ⟨hlog, hbefore, htrue, hdelivered, hlive, -, -, hgenuine⟩ := h.returned hreturns
  obtain ⟨hpositive, hnumber, sequence, hcontent, -⟩ := hgenuine hlive
  obtain ⟨hasked, -⟩ := (hbefore.counted htrue).live worker hlive
  rw [hasked] at hpositive hnumber
  obtain ⟨earlier, since, htake, hsince⟩ := exists_written hcontent
  rw [htake] at hbefore htrue hdelivered hlive hlog
  obtain ⟨hearlier, hwrite, hrest⟩ := Orderly.append.mp hbefore
  obtain ⟨-, hrequest, -, -⟩ := hwrite
  obtain ⟨asker, hasker, hasks⟩ := hearlier.asks hrequest
  rw [account_append, List.foldl_cons] at hdelivered hlive
  obtain rfl : worker = asker := by
    have hborn := (hearlier.sound.live asker hasker).2
    have hlive := Account.Allows.held_before hrest hborn rfl hsince hlive
    exact Option.some.inj (hlive.symm.trans hasker)
  obtain ⟨call, reply, rest, rfl, hcall, hsupplies⟩ :=
    Account.exists_replied hrest rfl hdelivered
  let wrote : Note := .did (.wrote (.line request sequence text) (.ok ()))
  have hlength : (log.take place).length ≤ place := List.length_take_le _ _
  have hshape : log = (earlier ++ [wrote]) ++ .replied (.ok reply) ::
      (rest ++ .ended worker request (.ok text) :: log.drop (place + 1)) :=
    hlog.trans (by simp [wrote])
  have hafter : log.take (earlier.length + 1) = earlier ++ [wrote] := by
    rw [hshape]
    exact List.take_left' (by simp)
  refine ⟨earlier.length + 1, ?before, ⟨call, reply, ?reply, ?calls, hsupplies, ?asks⟩,
    fun hfew => ?counts, _, hcontent, earlier.length, rfl, ?wrote⟩
  case before =>
    rw [htake] at hlength
    simp only [List.length_append, List.length_cons] at hlength
    omega
  case reply =>
    rw [hshape, List.getElem?_append_right (by simp)]
    simp
  case calls =>
    rw [hafter]
    exact calls_of_account (by rw [account_append]; exact hcall)
  case asks =>
    rw [hafter]
    exact hasks.snoc id
  case counts =>
    have hcounted := hearlier.counted (Account.along_append.mp htrue).1
    obtain ⟨hasked', hrequests⟩ := hcounted.live worker hasker
    obtain ⟨hopen, hsame⟩ := hcounted.opened request hrequest
    have hgrows : (Session.asked worker earlier).length ≤
        (Session.asked worker (log.take place)).length := by
      rw [htake, Session.asked, Session.asked, List.filterMap_append, List.length_append]
      exact Nat.le_add_right _ _
    rw [hafter, Session.requests_snoc, List.length_append, ← hrequests]
    have hle := (hcounted.heard.trans hasked'.le).trans hgrows
    exact eq_of_ofNat_pred_eq hopen hle hfew (hsame.symm.trans hnumber)
  case wrote =>
    rw [hshape, List.append_assoc, List.getElem?_append_right (Nat.le_refl _)]
    simp [wrote]

/-- A line that was taken once is not the one that the worker takes next. -/
theorem Follows.supply_ne {place other worker : Nat} {request request' : UInt64}
    {text text' : String} {after : Nat} {content content' : Content}
    (h : system.Follows config url log) (hlt : place < other)
    (hreturns : Session.Returns log place worker request text)
    (hreturns' : Session.Returns log other worker request' text')
    (hcontent : (account config url (log.take place)).content = some content)
    (hcontent' : (account config url (log.take other)).content = some content')
    (hwrote : Note.Wrote log after content) : ¬ Note.Wrote log after content' := by
  intro hwrote'
  obtain ⟨before, rfl, hnote⟩ := hwrote
  obtain ⟨before', hsame, hnote'⟩ := hwrote'
  obtain rfl : before = before' := Nat.succ.inj hsame
  have hsame : content = content' := by
    have hnotes := hnote.symm.trans hnote'
    simp only [Option.some.injEq, Note.did.injEq, Done.wrote.injEq, and_true] at hnotes
    exact hnotes
  subst hsame
  obtain ⟨hlog, -, -, -, hlive, -, -, hgenuine⟩ := h.returned hreturns
  obtain ⟨-, -, -, -, hlive', -, -, hgenuine'⟩ := h.returned hreturns'
  obtain ⟨-, -, sequence, hline, -⟩ := hgenuine hlive
  obtain ⟨-, -, sequence', hline', hfresh⟩ := hgenuine' hlive'
  have hsequence : sequence = sequence' := by
    have hlines := (hline.symm.trans hcontent).trans (hcontent'.symm.trans hline')
    simp only [Option.some.injEq, Content.line.injEq] at hlines
    exact hlines.2.1
  obtain ⟨hplace, hget⟩ := List.getElem?_eq_some_iff.mp hreturns.1
  obtain ⟨gap, rfl⟩ := Nat.exists_eq_add_of_lt hlt
  have htake : log.take (place + gap + 1) =
      log.take place ++ .ended worker request (.ok text) :: (log.drop (place + 1)).take gap := by
    rw [Nat.add_assoc, List.take_add, ← List.getElem_cons_drop hplace, hget, List.take_succ_cons]
  have htaken : (worker, sequence) ∈ (account config url (log.take (place + gap + 1))).taken := by
    rw [htake, account_append, List.foldl_cons]
    refine Account.mem_taken_foldl ?_
    simp [Account.note, Account.ended, hline, hlive]
  exact absurd (hsequence ▸ hfresh sequence htaken) (UInt64.lt_irrefl _)

/-- A session with a worker whose texts ask for a line. -/
def asking : System Unit :=
  .new (.new .asker .direct (.memory "0") .empty) .default

/-- Its steps until the line was delivered for which the worker waits. -/
def answering : List Label :=
  [.call .start, .deed, .deed, .deed, .work 0, .work 0, .work 0, .hear,
    .call (.submit "ask()"), .deed, .work 0, .work 0, .work 0, .call .poll, .hear, .deed, .quiet,
    .call (.deliver "yes"), .quiet, .deed, .work 0]

/-- Whenever a request for input of a worker ends with a text, the user supplied this text in a
call that ended well while the request was the last that was heard of the worker, and for each
request in a call of its own. Up to as many requests as there are numbers, it is the request with
this number that the session had heard. -/
theorem answer_supplied_once {world : World σ} (hnew : world.lanes = []) (hshares : world.Shares)
    (h : Run (.new world config) log system) (worker : Nat) :
    ∃ supply : Nat → Nat,
      (∀ place request text, Session.Returns log place worker request text →
        supply place < place ∧ Session.Supplied log (supply place) worker request text ∧
          ((Session.asked worker (log.take place)).length ≤ UInt64.size →
            (Session.requests worker (log.take (supply place))).length =
              (Session.asked worker (log.take place)).length)) ∧
      ∀ place other request request' text text',
        Session.Returns log place worker request text →
          Session.Returns log other worker request' text' →
            supply place = supply other → place = other := by
  have hfollows := h.follows hnew hshares
  have hsupply (place : Nat) : ∃ after, ∀ request text,
      Session.Returns log place worker request text → after < place ∧
        Session.Supplied log after worker request text ∧
        ((Session.asked worker (log.take place)).length ≤ UInt64.size →
          (Session.requests worker (log.take after)).length =
            (Session.asked worker (log.take place)).length) ∧
        ∃ content, (account config world.buffer.url (log.take place)).content = some content ∧
          Note.Wrote log after content := by
    by_cases hreturns : ∃ request text, Session.Returns log place worker request text
    · obtain ⟨request, text, hreturns⟩ := hreturns
      obtain ⟨after, hafter⟩ := hfollows.supply hreturns
      refine ⟨after, fun request' text' hreturns' => ?_⟩
      have hsame := hreturns.1.symm.trans hreturns'.1
      simp only [Option.some.injEq, Note.ended.injEq, Except.ok.injEq, true_and] at hsame
      obtain ⟨rfl, rfl⟩ := hsame
      exact hafter
    · exact ⟨0, fun request text hthere => absurd ⟨request, text, hthere⟩ hreturns⟩
  choose supply hsupply using hsupply
  refine ⟨supply, fun place request text hreturns => ?_, ?_⟩
  · obtain ⟨hlt, hsupplied, hcount, -⟩ := hsupply place request text hreturns
    exact ⟨hlt, hsupplied, hcount⟩
  · intro place other request request' text text' hreturns hreturns' hsame
    obtain ⟨-, -, -, content, hcontent, hwrote⟩ := hsupply place request text hreturns
    obtain ⟨-, -, -, content', hcontent', hwrote'⟩ := hsupply other request' text' hreturns'
    rcases Nat.lt_trichotomy place other with hlt | heq | hlt
    · rw [← hsame] at hwrote'
      exact absurd hwrote' (hfollows.supply_ne hlt hreturns hreturns' hcontent hcontent' hwrote)
    · exact heq
    · rw [hsame] at hwrote
      exact absurd hwrote (hfollows.supply_ne hlt hreturns' hreturns hcontent' hcontent hwrote')

theorem answer_supplied_to_asker :
    ∃ log system, Run asking log system ∧ Session.Returns log 28 0 0 "yes" ∧
      ∃ after < 28, Session.Supplied log after 0 0 "yes" := by
  obtain ⟨system, hsteps⟩ : ∃ system, asking.steps (answering ++ [.work 0]) = some system :=
    Option.isSome_iff_exists.mp (by decide +kernel)
  have hreturns : Session.Returns (asking.log (answering ++ [.work 0])) 28 0 0 "yes" := by
    decide +kernel
  have hshares : (World.new Interpreter.asker .direct (.memory "0") .empty).Shares := by rintro _ ⟨⟩
  obtain ⟨supply, hsupply, -⟩ := answer_supplied_once rfl hshares (.of_steps hsteps) 0
  obtain ⟨hlt, hsupplied, -⟩ := hsupply 28 0 "yes" hreturns
  exact ⟨_, system, .of_steps hsteps, hreturns, supply 28, hlt, hsupplied⟩

/-- A line that was written for the request of a worker waits for it: as long as the session does
not let go of the worker and the worker still waits, having made no further request, the buffer
holds this line, it is newer than what the worker has seen, and the next read of the buffer ends
the wait with its text. -/
theorem answer_waits {world : World σ} (hnew : world.lanes = []) (hshares : world.Shares)
    (h : Run (.new world config) log system) {before after : List Note}
    {request sequence : UInt64} {text : String}
    (hlog : log = before ++ .did (.wrote (.line request sequence text) (.ok ())) :: after)
    (hlines : Session.lines log ≤ UInt64.size) :
    ∃ worker, Session.Asks before worker request ∧
      ∀ lane wait, .did (.terminated worker) ∉ after →
        (Session.asked worker log).length = (Session.requests worker before).length →
        system.world.lanes[worker]? = some lane →
        lane.task.wait? system.world.clock = some wait →
        wait.request = request ∧ system.world.content = .ok (.line request sequence text) ∧
          (Content.line request sequence text).isNewerThan wait.bridge.lastSequence = true ∧
          ∀ now deadline, ({ wait with stage := .reading deadline } : Bridge.Wait).step now
              lane.stopped (lane.read system.world.buffer system.world.storage) =
            .ended (.ok text) { wait.bridge with lastSequence := some sequence } := by
  have hfollows := h.follows hnew hshares
  have hcounted := hfollows.orderly.counted hfollows.genuine
  have horderly := hfollows.orderly
  have hgenuine := hfollows.genuine
  rw [hlog] at horderly hgenuine
  obtain ⟨hbefore, hwrite, hafter⟩ := Orderly.append.mp horderly
  obtain ⟨hearlier, -⟩ := Account.along_append.mp hgenuine
  obtain ⟨-, hrequest, -, -⟩ := hwrite
  obtain ⟨worker, hheld, hasks⟩ := hbefore.asks hrequest
  refine ⟨worker, hasks, fun lane wait hkept hstill hlane hwait => ?_⟩
  have hend : account config world.buffer.url log = after.foldl Account.note
      ((account config world.buffer.url before).note
        (.did (.wrote (.line request sequence text) (.ok ())))) := by
    rw [hlog, account_append, List.foldl_cons]
  obtain ⟨hlive, hle⟩ := Account.Allows.keeps hafter hheld hkept
  rw [← hend] at hlive hle
  obtain ⟨hasked, -⟩ := hcounted.live worker hlive
  obtain ⟨-, hrequests⟩ := (hbefore.counted hearlier).live worker hheld
  -- The worker has asked for nothing since, so the session has heard all its requests.
  have hheard : (account config world.buffer.url log).requests =
      (account config world.buffer.url log).asked := by
    have hfew := hcounted.heard
    have hmany : (account config world.buffer.url before).requests ≤
      (account config world.buffer.url log).requests := hle
    omega
  have hsame : (account config world.buffer.url log).requests =
      (account config world.buffer.url before).requests := by
    omega
  obtain ⟨hclosed, hcontent⟩ :=
    Account.Allows.keeps_content hafter hheld rfl hkept (by rw [← hend]; exact hsame)
  rw [← hend] at hclosed hcontent
  obtain ⟨held, mode, ⟨hsome, hfits⟩, hserves⟩ := hfollows.tends.live worker hlive
  obtain rfl : lane = held := Option.some.inj (hlane.symm.trans hsome)
  obtain ⟨newest, line, hline, hnewer⟩ :=
    hserves.answer wait.bridge wait.request (hfits.asking hwait) hheard hclosed
  have hlast := hcontent.symm.trans hline
  simp only [Account.note, Account.did, Account.wrote, Option.some.injEq,
    Content.line.injEq] at hlast
  obtain ⟨rfl, rfl, rfl⟩ := hlast
  have hnewer := hnewer (by rw [account_lines]; exact hlines)
  have hread := (hfollows.tends.holds _ hline).read
  refine ⟨rfl, hread, hnewer, fun now deadline => ?_⟩
  rw [(hfollows.tends.sane worker lane hlane).reads.read_eq, hread]
  simp only [Bridge.Wait.step, Bridge.Wait.look, hnewer, if_true, Bridge.Wait.receive]

theorem answer_waits_for_asker :
    ∃ log system lane wait, Run asking log system ∧ system.world.lanes[0]? = some lane ∧
      lane.task.wait? system.world.clock = some wait ∧
      system.world.content = .ok (.line 0 0 "yes") ∧
      (Content.line 0 0 "yes").isNewerThan wait.bridge.lastSequence = true := by
  let system := (asking.steps answering).get (by decide +kernel)
  have hrun : Run asking (asking.log answering) system := .of_steps (Option.some_get _).symm
  have hshares : (World.new Interpreter.asker .direct (.memory "0") .empty).Shares := by rintro _ ⟨⟩
  have hlog : asking.log answering = (asking.log answering).take 25 ++
      .did (.wrote (.line 0 0 "yes") (.ok ())) :: (asking.log answering).drop 26 := by
    decide +kernel
  have hwaiting :
      (system.world.lanes[0]?.bind (·.task.wait? system.world.clock)).isSome = true := by
    decide +kernel
  obtain ⟨wait, hwaiting⟩ := Option.isSome_iff_exists.mp hwaiting
  obtain ⟨lane, hlane, hwait⟩ := Option.bind_eq_some_iff.mp hwaiting
  obtain ⟨worker, ⟨before, prompt, since, hbefore, -⟩, hwaits⟩ :=
    answer_waits rfl hshares hrun hlog (by decide +kernel)
  have hheard : ((asking.log answering).take 25).filter Note.isRequest =
      [.heard 0 (.event (.input 0 none))] := by
    decide +kernel
  obtain ⟨rfl, -⟩ : worker = 0 ∧ prompt = none := by
    have hmem : Note.heard worker (.event (.input 0 prompt)) ∈
        [Note.heard 0 (.event (.input 0 none))] := by
      rw [← hheard]
      exact List.mem_filter.mpr ⟨by simp [hbefore], rfl⟩
    simpa using hmem
  obtain ⟨-, hcontent, hnewer, -⟩ :=
    hwaits lane wait (by decide +kernel) (by decide +kernel) hlane hwait
  exact ⟨_, system, lane, wait, hrun, hlane, hwait, hcontent, hnewer⟩

end System
end ScriptConsole
