import Mathlib.Data.List.Induction
import ScriptConsole.Worker.Work

/-!
The bridge of a worker over all the calls that the worker makes of it, whatever the sink answers,
whatever the buffer holds at each look and however time goes by. Requests are numbered one after
the other, no line is taken twice, and a call returns a line only if the line was written for it.
-/

namespace ScriptConsole.Bridge

/-- What a worker can ask of its bridge. -/
inductive Call where
  /-- Post a request for a line and wait for the line. -/
  | request (prompt : Option String)
  /-- Wait for the line that answers a request. -/
  | await (request : UInt64)

/-- What a call has to do; it ends with its result and the bridge that it leaves. -/
abbrev Job : Type := Work (Except HostError String × Bridge)

def call (bridge : Bridge) : Call → Job
  | .request prompt => .ofDialogue bridge (.stdin prompt .done)
  | .await request => .await bridge request fun result bridge => .done (result, bridge)

/-- What is left of a request for a line when the sink has answered. -/
def afterOffer (bridge : Bridge) : Except Refusal Unit → Job
  | .ok () => bridge.advance.call (.await bridge.nextRequest)
  | .error refusal => .done (.error refusal.toHostError, bridge.advance)

theorem call_request (bridge : Bridge) (prompt : Option String) :
    bridge.call (.request prompt) = .post (bridge.request prompt) bridge.afterOffer := by
  rw [call, Work.ofDialogue]
  congr 1

inductive Occurrence where
  | called (call : Call)
  /-- An event was offered to the sink, which took it or not. -/
  | offered (event : Event) (answer : Except Refusal Unit)
  /-- A look at the buffer found something newer than the last line. -/
  | found (content : Content)
  | returned (result : Except HostError String)

inductive Position where
  | resting (bridge : Bridge)
  | acting (job : Job)
  | waiting (wait : Wait) (next : Except HostError String → Bridge → Job)

/-- What a look at this content finds. -/
def Wait.found (wait : Wait) : Except BufferError Content → List Occurrence
  | .error _ => []
  | .ok content =>
      if wait.stage ≠ .checking ∧ content.isNewerThan wait.bridge.lastSequence = true then
        [.found content]
      else []

namespace Position

def ofJob : Job → Position
  | .done (_, bridge) => resting bridge
  | job => acting job

/-- What occurs where a call comes to this. -/
def occurrences : Job → List Occurrence
  | .done (result, _) => [.returned result]
  | _ => []

/-- One step of a bridge, with what occurs. -/
inductive Goes : Position → List Occurrence → Position → Prop where
  | call (bridge : Bridge) (call : Call) :
      Goes (resting bridge) (.called call :: occurrences (bridge.call call))
        (ofJob (bridge.call call))
  | offer {event : Event} {next : Except Refusal Unit → Job} (answer : Except Refusal Unit) :
      Goes (acting (.post event next)) (.offered event answer :: occurrences (next answer))
        (ofJob (next answer))
  | begin {bridge : Bridge} {request : UInt64} {next : Except HostError String → Bridge → Job}
      (now : Nat) :
      Goes (acting (.await bridge request next)) [] (waiting (bridge.await request now) next)
  | wait {wait wait' : Wait} {next : Except HostError String → Bridge → Job}
      (now : Nat) (terminated : Bool) (content : Except BufferError Content)
      (hstep : wait.step now terminated content = .waiting wait') :
      Goes (waiting wait next) (wait.found content) (waiting wait' next)
  | stop {wait : Wait} {next : Except HostError String → Bridge → Job}
      {result : Except HostError String} {bridge : Bridge}
      (now : Nat) (terminated : Bool) (content : Except BufferError Content)
      (hstep : wait.step now terminated content = .ended result bridge) :
      Goes (waiting wait next) (wait.found content ++ occurrences (next result bridge))
        (ofJob (next result bridge))

/-- The event that is offered to the sink next. -/
def offering : Position → List Event
  | acting (.post event _) => [event]
  | _ => []

def bridge? : Position → Option Bridge
  | resting bridge => some bridge
  | acting (.await bridge _ _) => some bridge
  | acting _ => none
  | waiting wait _ => some wait.bridge

end Position

/-- A bridge with these bounds can come to this position after all this has occurred. -/
inductive Course (timeout : Option Duration) (slice : Duration) :
    List Occurrence → Position → Prop where
  | new : Course timeout slice [] (.resting (.new timeout slice))
  | step {log more : List Occurrence} {position position' : Position}
      (h : Course timeout slice log position) (hgoes : position.Goes more position') :
      Course timeout slice (log ++ more) position'

/-! ### What a log tells -/

/-- The prompts of the requests that were called for. -/
def prompts (log : List Occurrence) : List (Option String) :=
  log.filterMap fun
    | .called (.request prompt) => some prompt
    | _ => none

/-- The events that were offered to the sink. -/
def offers (log : List Occurrence) : List Event :=
  log.filterMap fun
    | .offered event _ => some event
    | _ => none

/-- The numbers of the requests among these events. -/
def numbers (events : List Event) : List UInt64 :=
  events.filterMap fun
    | .input request _ => some request
    | _ => none

/-- The numbers of the lines that were taken or passed over. -/
def sequences (log : List Occurrence) : List UInt64 :=
  log.filterMap fun
    | .found (.line _ sequence _) => some sequence
    | _ => none

/-- The request whose line is waited for. -/
def awaited (log : List Occurrence) : Option UInt64 :=
  log.foldl (fun awaited occurrence =>
    match occurrence with
    | .called (.await request) => some request
    | .offered (.input request _) (.ok _) => some request
    | .returned _ => none
    | _ => awaited) none

/-- The requests with these prompts, numbered from zero on. -/
def numbered (prompts : List (Option String)) : List Event :=
  prompts.mapIdx fun n text => .input (UInt64.ofNat n) (prompt text)

/-- What occurs just before a line is returned, and just after the line that is waited for or the
end of all lines was found. -/
def Explains (before : List Occurrence) : Occurrence → List Occurrence → Prop
  | .returned (.ok text), _ => ∃ earlier request sequence,
      before = earlier ++ [.found (.line request sequence text)] ∧ awaited earlier = some request
  | .found (.line request _ text), after =>
      awaited before = some request → after.head? = some (.returned (.ok text))
  | .found .closed, after => after.head? = some (.returned (.error .bufferClosed))
  | _, _ => True

/-- Every occurrence in the log has its explanation there. -/
def Explained (log : List Occurrence) : Prop :=
  ∀ before occurrence after, log = before ++ occurrence :: after →
    Explains before occurrence after

/-! ### Logs that go on -/

variable {log more : List Occurrence} {bridge : Bridge}

@[simp]
theorem prompts_append (log more : List Occurrence) :
    prompts (log ++ more) = prompts log ++ prompts more :=
  List.filterMap_append

@[simp]
theorem offers_append (log more : List Occurrence) :
    offers (log ++ more) = offers log ++ offers more :=
  List.filterMap_append

@[simp]
theorem sequences_append (log more : List Occurrence) :
    sequences (log ++ more) = sequences log ++ sequences more :=
  List.filterMap_append

theorem awaited_concat (log : List Occurrence) (occurrence : Occurrence) :
    awaited (log ++ [occurrence]) = match occurrence with
      | .called (.await request) => some request
      | .offered (.input request _) (.ok _) => some request
      | .returned _ => none
      | _ => awaited log := by
  rw [awaited, List.foldl_append]
  rfl

theorem numbered_concat (prompts : List (Option String)) (text : Option String) :
    numbered (prompts ++ [text]) =
      numbered prompts ++ [.input (UInt64.ofNat prompts.length) (prompt text)] :=
  List.mapIdx_concat

theorem Explains.append {before after : List Occurrence} {occurrence : Occurrence}
    (h : Explains before occurrence after) (more : List Occurrence) :
    Explains before occurrence (after ++ more) := by
  have hhead {next : Occurrence} (hnext : after.head? = some next) :
      (after ++ more).head? = some next := by
    rw [List.head?_append, hnext]
    rfl
  cases occurrence with
  | found content =>
      cases content with
      | line request sequence text => exact fun hawaited => hhead (h hawaited)
      | closed => exact hhead h
      | empty => trivial
  | returned result =>
      cases result with
      | ok text => exact h
      | error cause => trivial
  | _ => trivial

theorem Explained.append (h : Explained log)
    (hmore : ∀ before occurrence after, more = before ++ occurrence :: after →
      Explains (log ++ before) occurrence after) : Explained (log ++ more) := by
  intro before occurrence after hlog
  rcases List.append_eq_append_iff.mp hlog with ⟨since, rfl, hsince⟩ | ⟨since, rfl, hsince⟩
  · exact hmore since occurrence after hsince
  · cases since with
    | nil =>
        have hstart := hmore [] occurrence after hsince.symm
        rwa [List.append_nil, List.append_nil] at hstart
    | cons first rest =>
        obtain ⟨rfl, rfl⟩ := List.cons.inj hsince
        exact (h before occurrence rest rfl).append more

/-! ### One step -/

/-- What a bridge remembers of the log. -/
structure Keeps (bridge : Bridge) (log : List Occurrence) : Prop where
  next : bridge.nextRequest = UInt64.ofNat (prompts log).length
  last : bridge.lastSequence = (sequences log).getLast?
  offers : offers log = numbered (prompts log)

/-- Where a bridge is after all this has occurred. -/
inductive Position.Suits : Position → List Occurrence → Prop where
  | resting {bridge : Bridge} {log : List Occurrence} (hkeeps : bridge.Keeps log) :
      Suits (.resting bridge) log
  | offering {bridge : Bridge} {log : List Occurrence} (hkeeps : bridge.Keeps log)
      (prompt : Option String) :
      Suits (.acting (.post (bridge.request prompt) bridge.afterOffer))
        (log ++ [.called (.request prompt)])
  | beginning {bridge : Bridge} {log : List Occurrence} {request : UInt64}
      (hkeeps : bridge.Keeps log) (hawaited : awaited log = some request) :
      Suits (.acting (.await bridge request fun result bridge => .done (result, bridge))) log
  | waiting {wait : Wait} {log : List Occurrence} (hkeeps : wait.bridge.Keeps log)
      (hawaited : awaited log = some wait.request) :
      Suits (.waiting wait fun result bridge => .done (result, bridge)) log

theorem Keeps.aside (h : bridge.Keeps log) (hprompts : prompts more = [])
    (hsequences : sequences more = []) (hoffers : Bridge.offers more = []) :
    bridge.Keeps (log ++ more) := by
  constructor
  · rw [prompts_append, hprompts, List.append_nil]
    exact h.next
  · rw [sequences_append, hsequences, List.append_nil]
    exact h.last
  · rw [offers_append, prompts_append, hprompts, hoffers, List.append_nil, List.append_nil]
    exact h.offers

theorem Keeps.returned (h : bridge.Keeps log) (result : Except HostError String) :
    bridge.Keeps (log ++ [.returned result]) :=
  h.aside rfl rfl rfl

theorem Keeps.advance (h : bridge.Keeps log) (prompt : Option String)
    (answer : Except Refusal Unit) : bridge.advance.Keeps
      (log ++ [.called (.request prompt)] ++ [.offered (bridge.request prompt) answer]) := by
  have hprompts : prompts (log ++ [.called (.request prompt)] ++
      [.offered (bridge.request prompt) answer]) = prompts log ++ [prompt] := by
    simp [prompts]
  constructor
  · rw [hprompts, List.length_append, Bridge.advance, h.next]
    exact (UInt64.ofNat_add _ 1).symm
  · have hsequences : sequences (log ++ [.called (.request prompt)] ++
        [.offered (bridge.request prompt) answer]) = sequences log := by
      simp [sequences]
    rw [hsequences]
    exact h.last
  · rw [hprompts, numbered_concat, ← h.offers, ← h.next]
    simp [Bridge.offers, Bridge.request]

theorem Keeps.take (h : bridge.Keeps log) (request sequence : UInt64) (text : String) :
    Keeps { bridge with lastSequence := some sequence }
      (log ++ [.found (.line request sequence text)]) := by
  constructor
  · simpa [prompts] using h.next
  · simp [sequences]
  · simpa [Bridge.offers, prompts] using h.offers

theorem pairwise_concat_of_getLast {sequences : List UInt64} {sequence : UInt64}
    (h : sequences.Pairwise (· < ·))
    (hlast : ∀ seen, sequences.getLast? = some seen → seen < sequence) :
    (sequences ++ [sequence]).Pairwise (· < ·) := by
  rw [List.pairwise_append]
  refine ⟨h, List.pairwise_singleton _ _, ?_⟩
  intro earlier hearlier later hlater
  obtain rfl := List.mem_singleton.mp hlater
  cases sequences using List.reverseRecOn with
  | nil => cases hearlier
  | append_singleton front seen =>
      have hseen : seen < later := hlast seen List.getLast?_concat
      rcases List.mem_append.mp hearlier with hfront | hend
      · have hbefore := (List.pairwise_append.mp h).2.2 earlier hfront seen
          (List.mem_singleton_self seen)
        exact UInt64.lt_trans hbefore hseen
      · obtain rfl := List.mem_singleton.mp hend
        exact hseen

namespace Wait

variable {wait : Wait}

/-- What one step of a wait finds, and how it comes out. -/
inductive Looks (wait : Wait) : List Occurrence → Progress → Prop where
  | nothing (stage : Stage) : Looks wait [] (.waiting { wait with stage })
  | failed (cause : HostError) : Looks wait [] (.ended (.error cause) wait.bridge)
  | closed : Looks wait [.found .closed] (.ended (.error .bufferClosed) wait.bridge)
  | own {sequence : UInt64} {text : String}
      (hnewer : ∀ seen, wait.bridge.lastSequence = some seen → seen < sequence) :
      Looks wait [.found (.line wait.request sequence text)]
        (.ended (.ok text) { wait.bridge with lastSequence := some sequence })
  | other {request sequence : UInt64} {text : String} (hother : request ≠ wait.request)
      (hnewer : ∀ seen, wait.bridge.lastSequence = some seen → seen < sequence) :
      Looks wait [.found (.line request sequence text)]
        (.waiting { wait with
          bridge := { wait.bridge with lastSequence := some sequence }
          stage := .checking })

theorem lt_of_isNewerThan {after : Option UInt64} {request sequence : UInt64} {text : String}
    (h : (Content.line request sequence text).isNewerThan after = true) :
    ∀ seen, after = some seen → seen < sequence := by
  rintro seen rfl
  exact of_decide_eq_true h

theorem receive_looks {content : Content}
    (hnewer : content.isNewerThan wait.bridge.lastSequence = true) :
    wait.Looks [.found content] (wait.receive content) := by
  cases content with
  | empty => cases hnewer
  | closed => exact .closed
  | line request sequence text =>
      have hlater := lt_of_isNewerThan hnewer
      by_cases hown : request = wait.request
      · subst hown
        rw [receive, if_pos rfl]
        exact .own hlater
      · rw [receive, if_neg hown]
        exact .other hown hlater

theorem step_looks (wait : Wait) (now : Nat) (terminated : Bool)
    (content : Except BufferError Content) :
    wait.Looks (wait.found content) (wait.step now terminated content) := by
  cases hstage : wait.stage with
  | checking =>
      have hnothing : wait.found content = [] := by
        cases content with
        | error cause => rfl
        | ok content => exact if_neg fun h => h.1 hstage
      rw [hnothing, step, hstage]
      dsimp only
      rw [check]
      split
      · exact .failed _
      · split
        · exact .nothing _
        · exact .failed _
  | reading deadline =>
      rw [step, hstage]
      dsimp only
      cases content with
      | error cause => exact .failed _
      | ok content =>
          by_cases hnewer : content.isNewerThan wait.bridge.lastSequence = true
          · have hfound : wait.found (.ok content) = [.found content] :=
              if_pos ⟨by rw [hstage]; rintro ⟨⟩, hnewer⟩
            rw [hfound, look, if_pos hnewer]
            exact receive_looks hnewer
          · have hnothing : wait.found (.ok content) = [] := if_neg fun h => hnewer h.2
            rw [hnothing, look, if_neg hnewer]
            split
            · exact .nothing _
            · exact .nothing wait.stage

end Wait

/-- The lines that were found came one after the other, and all that was returned is explained. -/
structure Records (log : List Occurrence) : Prop where
  ordered : (sequences log).Pairwise (· < ·)
  explained : Explained log

theorem Explained.append_one (h : Explained log) {occurrence : Occurrence}
    (hexplains : Explains log occurrence []) : Explained (log ++ [occurrence]) := by
  apply h.append
  intro before found after hmore
  cases before with
  | nil =>
      obtain ⟨rfl, rfl⟩ := List.cons.inj hmore
      rwa [List.append_nil]
  | cons => simp at hmore

theorem Explained.append_two (h : Explained log) {first second : Occurrence}
    (hfirst : Explains log first [second]) (hsecond : Explains (log ++ [first]) second []) :
    Explained (log ++ [first, second]) := by
  apply h.append
  intro before found after hmore
  rcases before with _ | ⟨earlier, _ | ⟨_, before⟩⟩
  · obtain ⟨rfl, rfl⟩ := List.cons.inj hmore
    rwa [List.append_nil]
  · obtain ⟨rfl, hrest⟩ := List.cons.inj hmore
    obtain ⟨rfl, rfl⟩ := List.cons.inj hrest
    exact hsecond
  · simp at hmore

theorem Records.aside (h : Records log) (hsequences : sequences more = [])
    (hexplained : Explained (log ++ more)) : Records (log ++ more) := by
  refine ⟨?_, hexplained⟩
  rw [sequences_append, hsequences, List.append_nil]
  exact h.ordered

theorem Records.ordered_found (h : Records log) (hkeeps : bridge.Keeps log)
    {request sequence : UInt64} {text : String}
    (hnewer : ∀ seen, bridge.lastSequence = some seen → seen < sequence) :
    (sequences (log ++ [.found (.line request sequence text)])).Pairwise (· < ·) := by
  rw [hkeeps.last] at hnewer
  rw [sequences_append]
  exact pairwise_concat_of_getLast h.ordered hnewer

namespace Wait

variable {wait wait' : Wait}

theorem Looks.suits_waiting (hlooks : wait.Looks more (.waiting wait'))
    (hkeeps : wait.bridge.Keeps log) (hawaited : awaited log = some wait.request)
    (hrecords : Records log) :
    Position.Suits (.waiting wait' fun result bridge => .done (result, bridge)) (log ++ more) ∧
      Records (log ++ more) := by
  cases hlooks with
  | nothing stage =>
      rw [List.append_nil]
      exact ⟨.waiting hkeeps hawaited, hrecords⟩
  | @other request sequence text hother hnewer =>
      have htaken := hkeeps.take request sequence text
      have hexplains : Explains log (.found (.line request sequence text)) [] := by
        intro hsame
        exact absurd (Option.some.inj (hsame.symm.trans hawaited)) hother
      exact ⟨.waiting htaken ((awaited_concat _ _).trans hawaited),
        hrecords.ordered_found hkeeps hnewer, hrecords.explained.append_one hexplains⟩

theorem Looks.suits_resting {result : Except HostError String}
    (hlooks : wait.Looks more (.ended result bridge))
    (hkeeps : wait.bridge.Keeps log) (hawaited : awaited log = some wait.request)
    (hrecords : Records log) :
    Position.Suits (.resting bridge) (log ++ (more ++ [.returned result])) ∧
      Records (log ++ (more ++ [.returned result])) := by
  cases hlooks with
  | failed cause =>
      refine ⟨.resting (hkeeps.aside rfl rfl rfl), ?_⟩
      exact hrecords.aside rfl (hrecords.explained.append_one trivial)
  | closed =>
      refine ⟨.resting (hkeeps.aside rfl rfl rfl), ?_⟩
      exact hrecords.aside rfl (hrecords.explained.append_two rfl trivial)
  | @own sequence text hnewer =>
      have hkept := (hkeeps.take wait.request sequence text).returned (.ok text)
      rw [List.append_assoc] at hkept
      refine ⟨.resting hkept, ?_, ?_⟩
      · have hordered : (sequences (log ++ [.found (.line wait.request sequence text)])).Pairwise
            (· < ·) := hrecords.ordered_found hkeeps hnewer
        rwa [sequences_append] at hordered ⊢
      · apply hrecords.explained.append_two
        · exact fun _ => rfl
        · exact ⟨log, _, _, rfl, hawaited⟩

end Wait

namespace Position

variable {position position' : Position}

theorem Goes.suits (hgoes : position.Goes more position') (h : position.Suits log)
    (hrecords : Records log) : position'.Suits (log ++ more) ∧ Records (log ++ more) := by
  cases hgoes with
  | call bridge call =>
      cases h with
      | resting hkeeps =>
          have hcalled : Records (log ++ [.called call]) :=
            hrecords.aside rfl (hrecords.explained.append_one trivial)
          cases call with
          | request prompt =>
              rw [call_request]
              exact ⟨.offering hkeeps prompt, hcalled⟩
          | await request =>
              exact ⟨.beginning (hkeeps.aside rfl rfl rfl) (awaited_concat _ _), hcalled⟩
  | offer answer =>
      cases h with
      | offering hkeeps prompt =>
          have hadvanced := hkeeps.advance prompt answer
          cases answer with
          | ok _ =>
              refine ⟨.beginning hadvanced (awaited_concat _ _), ?_⟩
              exact hrecords.aside rfl (hrecords.explained.append_one trivial)
          | error refusal =>
              have hkept := hadvanced.returned (.error refusal.toHostError)
              rw [List.append_assoc] at hkept
              refine ⟨.resting hkept, ?_⟩
              exact hrecords.aside rfl (hrecords.explained.append_two trivial trivial)
  | begin now =>
      cases h with
      | beginning hkeeps hawaited =>
          rw [List.append_nil]
          exact ⟨.waiting hkeeps hawaited, hrecords⟩
  | @wait wait _ _ now terminated content hstep =>
      cases h with
      | waiting hkeeps hawaited =>
          have hlooks := wait.step_looks now terminated content
          rw [hstep] at hlooks
          exact hlooks.suits_waiting hkeeps hawaited hrecords
  | @stop wait _ _ _ now terminated content hstep =>
      cases h with
      | waiting hkeeps hawaited =>
          have hlooks := wait.step_looks now terminated content
          rw [hstep] at hlooks
          exact hlooks.suits_resting hkeeps hawaited hrecords

end Position

/-! ### Whole runs -/

theorem toNat_numbers_numbered {prompts : List (Option String)}
    (hfew : prompts.length ≤ UInt64.size) :
    (numbers (numbered prompts)).map UInt64.toNat = List.range prompts.length := by
  induction prompts using List.reverseRecOn with
  | nil => rfl
  | append_singleton prompts text ih =>
      rw [List.length_append, List.length_singleton] at hfew ⊢
      have hnumber : (UInt64.ofNat prompts.length).toNat = prompts.length :=
        UInt64.toNat_ofNat_of_lt' hfew
      rw [numbered_concat, numbers, List.filterMap_append, List.map_append, List.range_succ]
      exact congrArg₂ (· ++ ·) (ih (by omega)) (congrArg (fun n => [n]) hnumber)

/-- Each request that was called for was offered with its number, or is to be offered next. -/
theorem Position.Suits.offers {position : Position} (h : position.Suits log) :
    offers log ++ position.offering = numbered (prompts log) ∧
      ∃ earlier, Bridge.offers log = numbered earlier := by
  have hdone {bridge : Bridge} (hkeeps : bridge.Keeps log) :
      Bridge.offers log ++ [] = numbered (prompts log) ∧
        ∃ earlier, Bridge.offers log = numbered earlier := by
    rw [List.append_nil]
    exact ⟨hkeeps.offers, prompts log, hkeeps.offers⟩
  cases h with
  | resting hkeeps => exact hdone hkeeps
  | @offering bridge log hkeeps prompt =>
      have hoffers :
          Bridge.offers (log ++ [.called (.request prompt)]) = numbered (prompts log) := by
        rw [offers_append, hkeeps.offers]
        exact List.append_nil _
      have hprompts : prompts (log ++ [.called (.request prompt)]) = prompts log ++ [prompt] :=
        prompts_append log _
      rw [hoffers, hprompts, numbered_concat, ← hkeeps.next]
      exact ⟨rfl, prompts log, rfl⟩
  | beginning hkeeps => exact hdone hkeeps
  | waiting hkeeps => exact hdone hkeeps

variable {timeout : Option Duration} {slice : Duration} {position : Position}

theorem Course.suits (h : Course timeout slice log position) :
    position.Suits log ∧ Records log := by
  induction h with
  | new =>
      refine ⟨.resting ⟨rfl, rfl, rfl⟩, List.Pairwise.nil, ?_⟩
      intro before occurrence after hlog
      simp at hlog
  | step _ hgoes ih => exact hgoes.suits ih.1 ih.2

theorem Course.request {bridge : Bridge} (h : Course timeout slice log (.resting bridge))
    (prompt : Option String) : Course timeout slice (log ++ [.called (.request prompt)])
      (.acting (.post (bridge.request prompt) bridge.afterOffer)) := by
  have hcalled := h.step (.call bridge (.request prompt))
  rw [call_request] at hcalled
  exact hcalled

/-- Whatever the sink, the buffer and time do, in every run of a bridge the requests that it makes
are offered once each, in order and numbered from zero on, though some are refused and others end
without a line. The lines that it takes or passes over come in the order of their numbers, and it
remembers the last of them. A call returns a line only if it has just found that line with the
number that it waits for; it returns such a line at once, and it fails at once when it finds that
the buffer was closed. -/
theorem requests_and_lines_in_order (h : Course timeout slice log position) :
    offers log ++ position.offering = numbered (prompts log) ∧
    ((offers log).length ≤ UInt64.size →
      (numbers (offers log)).map UInt64.toNat = List.range (offers log).length) ∧
    (sequences log).Pairwise (· < ·) ∧
    (∀ bridge, position.bridge? = some bridge →
      bridge.lastSequence = (sequences log).getLast?) ∧
    Explained log := by
  obtain ⟨hsuits, hrecords⟩ := h.suits
  obtain ⟨hoffers, earlier, hearlier⟩ := hsuits.offers
  refine ⟨hoffers, ?_, hrecords.ordered, ?_, hrecords.explained⟩
  · intro hfew
    rw [hearlier, numbered, List.length_mapIdx] at hfew ⊢
    exact toNat_numbers_numbered hfew
  · intro bridge hbridge
    cases hsuits with
    | resting hkeeps =>
        obtain rfl := Option.some.inj hbridge
        exact hkeeps.last
    | offering => cases hbridge
    | beginning hkeeps =>
        obtain rfl := Option.some.inj hbridge
        exact hkeeps.last
    | waiting hkeeps =>
        obtain rfl := Option.some.inj hbridge
        exact hkeeps.last

/-- A request is refused; the next one finds an answer to another request before its own. -/
theorem requests_and_lines_in_order_of_late_answer : ∃ log bridge,
    Course none ⟨50⟩ log (.resting bridge) ∧
    offers log = [.input 0 none, .input 1 (some "name? ")] ∧ sequences log = [3, 4] ∧
    bridge.lastSequence = some 4 ∧ Explained log := by
  have called : Course none ⟨50⟩ _ _ := Course.new.request (some "")
  have refused := called.step (.offer (.error ⟨.disconnected, false⟩))
  have asked := refused.request (some "name? ")
  have offered := asked.step (.offer (.ok ()))
  have begun := offered.step (.begin 0)
  have reading := begun.step (.wait 0 false (.ok .empty) rfl)
  have passed := reading.step (.wait 10 false (.ok (.line 0 3 "late")) rfl)
  have readingAgain := passed.step (.wait 10 false (.ok .empty) rfl)
  have answered := readingAgain.step (.stop 20 false (.ok (.line 1 4 "bob")) rfl)
  obtain ⟨-, -, -, hlast, hexplained⟩ := requests_and_lines_in_order answered
  exact ⟨_, _, answered, rfl, rfl, hlast _ rfl, hexplained⟩

end ScriptConsole.Bridge
