import Mathlib.Data.List.Induction
import ScriptConsole.Proofs.Session.Course

/-!
Requests for input and the lines that answer them, as a log tells. A line is written for the
request that is open, and the call that wrote it ends before anything else happens.
-/

namespace ScriptConsole

deriving instance DecidableEq for Session
deriving instance DecidableEq for Session.Call
deriving instance DecidableEq for Done
deriving instance DecidableEq for Note

namespace Note

/-- The number of a request that the worker made. -/
def asked? (worker : Nat) : Note → Option UInt64
  | .said speaker (.input request _) => if speaker = worker then some request else none
  | _ => none

/-- The number of a request of the worker that the session heard. -/
def request? (worker : Nat) : Note → Option UInt64
  | .heard speaker (.event (.input request _)) => if speaker = worker then some request else none
  | _ => none

/-- What was written to the buffer. -/
def written? : Note → Option Content
  | .did (.wrote content (.ok _)) => some content
  | _ => none

/-- A request of some worker was heard. -/
def isRequest : Note → Bool
  | .heard _ (.event (.input _ _)) => true
  | _ => false

/-- A line was written to the buffer. -/
def isLine : Note → Bool
  | .did (.wrote (.line _ _ _) (.ok _)) => true
  | _ => false

/-- The session let go of the worker. -/
def IsParting (worker : Nat) (note : Note) : Prop :=
  note = .did (.terminated worker) ∨ note = .did (.discarded worker)

instance (worker : Nat) (note : Note) : Decidable (note.IsParting worker) :=
  inferInstanceAs (Decidable (_ ∨ _))

/-- After this note, what the worker asked before it is not open any more. -/
def Supersedes (worker : Nat) : Note → Prop
  | .heard speaker (.event (.input _ _)) | .heard speaker (.event (.run _ _ _)) => speaker = worker
  | .did (.terminated speaker) => speaker = worker
  | _ => False

/-- A call begins or ends. -/
def IsTurn : Note → Prop
  | .called _ | .replied _ => True
  | _ => False

end Note

namespace Session

/-- The requests that the worker made. -/
def asked (worker : Nat) (log : List Note) : List UInt64 :=
  log.filterMap (Note.asked? worker)

/-- The requests of the worker that the session heard. -/
def requests (worker : Nat) (log : List Note) : List UInt64 :=
  log.filterMap (Note.request? worker)

/-- What was written to the buffer, in order. -/
def written (log : List Note) : List Content :=
  log.filterMap Note.written?

/-- How many lines were written to the buffer. -/
def lines (log : List Note) : Nat :=
  log.countP Note.isLine

/-- The request of the worker is the last that was heard of it: since then the session heard of
no other request, and of no reply to a text. -/
def Asks (log : List Note) (worker : Nat) (request : UInt64) : Prop :=
  ∃ before prompt since, log = before ++ .heard worker (.event (.input request prompt)) :: since ∧
    ∀ note ∈ since, ¬ note.Supersedes worker

/-- The call goes on. -/
def Calls (log : List Note) (call : Session.Call) : Prop :=
  ∃ before since, log = before ++ .called call :: since ∧ ∀ note ∈ since, ¬ note.IsTurn

end Session

namespace Account

/-- A note about input is true to the account: the requests of the worker that the session holds
are numbered in order and heard in order, and what it takes for the last of them is the line that
was last written, for the first time. -/
def Genuine (a : Account) : Note → Prop
  | .heard _ (.event (.input request _)) =>
      a.requests < a.asked ∧ request = UInt64.ofNat a.requests
  | .said worker (.input request _) =>
      worker < a.spawned ∧ a.unborn ≠ some worker ∧
        (a.live = some worker → request = UInt64.ofNat a.asked)
  | .ended worker request (.ok text) =>
      worker < a.spawned ∧ a.unborn ≠ some worker ∧ (a.live = some worker →
        0 < a.asked ∧ request = UInt64.ofNat (a.asked - 1) ∧
          ∃ sequence, a.content = some (.line request sequence text) ∧
            ∀ earlier, (worker, earlier) ∈ a.taken → earlier < sequence)
  | _ => True

/-- The note tells nothing of workers and of their requests. -/
structure Aside (a : Account) (note : Note) : Prop where
  spawned : (a.note note).spawned = a.spawned
  unborn : (a.note note).unborn = a.unborn
  live : (a.note note).live = a.live
  asked : (a.note note).asked = a.asked
  requests : (a.note note).requests = a.requests
  request : (a.note note).request = a.request
  unasked : ∀ worker, note.asked? worker = none
  unheard : ∀ worker, note.request? worker = none
  stays : ∀ worker, ¬ note.Supersedes worker

/-- What a note tells of workers and of their requests. -/
inductive Tells (a : Account) : Note → Prop where
  | wrote (request sequence : UInt64) (text : String) :
      Tells a (.did (.wrote (.line request sequence text) (.ok ())))
  | spawned : Tells a (.did (.spawned (.ok ())))
  | born (worker : Nat) (setup : Setup) : Tells a (.did (.posted worker (.init setup) (.ok ())))
  | terminated (worker : Nat) : Tells a (.did (.terminated worker))
  | discarded (worker : Nat) : Tells a (.did (.discarded worker))
  | ran (worker : Nat) (success : Bool) (output error : Option String) :
      Tells a (.heard worker (.event (.run success output error)))
  | heard (worker : Nat) (request : UInt64) (prompt : Option String) :
      Tells a (.heard worker (.event (.input request prompt)))
  | said (worker : Nat) (request : UInt64) (prompt : Option String) :
      Tells a (.said worker (.input request prompt))
  | aside {note : Note} (haside : a.Aside note) : Tells a note

theorem tells (a : Account) (note : Note) : a.Tells note := by
  cases note with
  | did done =>
      cases done with
      | wrote content answer =>
          rcases answer with cause | ⟨⟨⟩⟩
          · exact .aside ⟨rfl, rfl, rfl, rfl, rfl, rfl, fun _ => rfl, fun _ => rfl, fun _ => id⟩
          · cases content with
            | line request sequence text => exact .wrote request sequence text
            | _ =>
                exact .aside ⟨rfl, rfl, rfl, rfl, rfl, rfl, fun _ => rfl, fun _ => rfl, fun _ => id⟩
      | spawned answer =>
          rcases answer with cause | ⟨⟨⟩⟩
          · exact .aside ⟨rfl, rfl, rfl, rfl, rfl, rfl, fun _ => rfl, fun _ => rfl, fun _ => id⟩
          · exact .spawned
      | posted worker command answer =>
          rcases answer with cause | ⟨⟨⟩⟩
          · exact .aside ⟨rfl, rfl, rfl, rfl, rfl, rfl, fun _ => rfl, fun _ => rfl, fun _ => id⟩
          · cases command with
            | init setup => exact .born worker setup
            | run code =>
                exact .aside ⟨rfl, rfl, rfl, rfl, rfl, rfl, fun _ => rfl, fun _ => rfl, fun _ => id⟩
      | terminated worker => exact .terminated worker
      | discarded worker => exact .discarded worker
  | heard worker heard =>
      cases heard with
      | event event =>
          cases event with
          | run success output error => exact .ran worker success output error
          | input request prompt => exact .heard worker request prompt
          | _ =>
              exact .aside ⟨rfl, rfl, rfl, rfl, rfl, rfl, fun _ => rfl, fun _ => rfl, fun _ => id⟩
      | _ => exact .aside ⟨rfl, rfl, rfl, rfl, rfl, rfl, fun _ => rfl, fun _ => rfl, fun _ => id⟩
  | said worker event =>
      cases event with
      | input request prompt => exact .said worker request prompt
      | _ => exact .aside ⟨rfl, rfl, rfl, rfl, rfl, rfl, fun _ => rfl, fun _ => rfl, fun _ => id⟩
  | ended worker request result =>
      refine .aside ⟨?_, ?_, ?_, ?_, ?_, ?_, fun _ => rfl, fun _ => rfl, fun _ => id⟩ <;>
        rw [note, ended_eq]
  | _ => exact .aside ⟨rfl, rfl, rfl, rfl, rfl, rfl, fun _ => rfl, fun _ => rfl, fun _ => id⟩

theorem note_fields (a : Account) (note : Note) :
    (a.note note).content = note.written?.or a.content ∧
      (a.note note).lines = a.lines + note.isLine.toNat ∧
      (a.note note).call = match note with
        | .called call => some call
        | .replied _ => none
        | _ => a.call := by
  cases note with
  | did done =>
      cases done with
      | wrote content answer =>
          cases answer <;> cases content <;> exact ⟨rfl, rfl, rfl⟩
      | spawned answer => cases answer <;> exact ⟨rfl, rfl, rfl⟩
      | posted worker command answer =>
          cases answer with
          | error cause => exact ⟨rfl, rfl, rfl⟩
          | ok _ => cases command <;> exact ⟨rfl, rfl, rfl⟩
      | _ => exact ⟨rfl, rfl, rfl⟩
  | heard worker heard =>
      cases heard with
      | event event => cases event <;> exact ⟨rfl, rfl, rfl⟩
      | _ => exact ⟨rfl, rfl, rfl⟩
  | said worker event =>
      rw [note, said_eq]
      exact ⟨rfl, rfl, rfl⟩
  | ended worker request result =>
      rw [note, ended_eq]
      exact ⟨rfl, rfl, rfl⟩
  | _ => exact ⟨rfl, rfl, rfl⟩

/-! ### While a line lies in the buffer -/

variable {a : Account} {worker : Nat} {note : Note}

/-- The buffer is not written while the session holds a worker and no request is open. -/
theorem Permits.unwritten (h : a.Permits note) (hlive : a.live = some worker)
    (hrequest : a.request = none) : note.written? = none := by
  cases note with
  | did done =>
      cases done with
      | wrote content answer =>
          cases content with
          | empty =>
              obtain ⟨-, -, hnone | hopen⟩ := h
              · cases hlive.symm.trans hnone
              · exact absurd hrequest hopen
          | closed =>
              obtain ⟨-, -, hnone⟩ := h
              cases hlive.symm.trans hnone
          | line request sequence text =>
              obtain ⟨-, hopen, -⟩ := h
              cases hrequest.symm.trans hopen
      | _ => rfl
  | _ => rfl

/-- The session keeps its worker until it lets go of it, and opens no request but by hearing it. -/
theorem Permits.keeps (h : a.Permits note) (hlive : a.live = some worker)
    (hnote : note ≠ .did (.terminated worker)) :
    (a.note note).live = some worker ∧ a.requests ≤ (a.note note).requests ∧
      (a.request = none → (a.note note).requests = a.requests → (a.note note).request = none) := by
  cases a.tells note with
  | wrote request sequence text => exact ⟨hlive, Nat.le_refl _, fun _ _ => rfl⟩
  | spawned => cases hlive.symm.trans h.2.1
  | born next setup => cases hlive.symm.trans h.2.1
  | terminated next =>
      obtain rfl : worker = next := Option.some.inj (hlive.symm.trans h.2.1)
      exact absurd rfl hnote
  | discarded next => cases hlive.symm.trans h.2.1
  | ran next success output error => exact ⟨hlive, Nat.le_refl _, fun _ _ => rfl⟩
  | heard next request prompt =>
      exact ⟨hlive, Nat.le_succ _, fun _ hsame => absurd hsame (Nat.succ_ne_self _)⟩
  | said next request prompt =>
      rw [Account.note, said_eq]
      exact ⟨hlive, Nat.le_refl _, fun hrequest _ => hrequest⟩
  | aside haside =>
      rw [haside.live, haside.requests, haside.request]
      exact ⟨hlive, Nat.le_refl _, fun hrequest _ => hrequest⟩

theorem Allows.keeps {log : List Note} (h : a.Allows log) (hlive : a.live = some worker)
    (hlog : .did (.terminated worker) ∉ log) :
    (log.foldl Account.note a).live = some worker ∧
      a.requests ≤ (log.foldl Account.note a).requests := by
  induction log generalizing a with
  | nil => exact ⟨hlive, Nat.le_refl _⟩
  | cons note log ih =>
      obtain ⟨hnote, hlog⟩ := not_or.mp (mt List.mem_cons.mpr hlog)
      obtain ⟨hheld, hle, -⟩ := h.1.keeps hlive (Ne.symm hnote)
      obtain ⟨hlast, hle'⟩ := ih h.2 hheld hlog
      exact ⟨hlast, Nat.le_trans hle hle'⟩

/-- What the buffer holds stays there while the session hears of no further request. -/
theorem Allows.keeps_content {log : List Note} (h : a.Allows log) (hlive : a.live = some worker)
    (hrequest : a.request = none) (hlog : .did (.terminated worker) ∉ log)
    (hsame : (log.foldl Account.note a).requests = a.requests) :
    (log.foldl Account.note a).request = none ∧ (log.foldl Account.note a).content = a.content := by
  induction log generalizing a with
  | nil => exact ⟨hrequest, rfl⟩
  | cons note log ih =>
      obtain ⟨hnote, hlog⟩ := not_or.mp (mt List.mem_cons.mpr hlog)
      obtain ⟨hheld, hle, hstays⟩ := h.1.keeps hlive (Ne.symm hnote)
      obtain ⟨-, hle'⟩ := Allows.keeps h.2 hheld hlog
      have hrequests : (a.note note).requests = a.requests :=
        Nat.le_antisymm (hsame ▸ hle') hle
      have hcontent : (a.note note).content = a.content := by
        rw [(a.note_fields note).1, h.1.unwritten hlive hrequest, Option.none_or]
      rw [← hcontent]
      exact ih h.2 hheld (hstays hrequest hrequests) hlog (hsame.trans hrequests.symm)

/-- The worker that the session holds was there when the line in the buffer was written. -/
theorem Allows.held_before {log : List Note} {request sequence : UInt64} {text : String}
    (h : a.Allows log) (hunborn : a.unborn = none)
    (hcontent : a.content = some (.line request sequence text))
    (hlog : Session.written log = []) (hlive : (log.foldl Account.note a).live = some worker) :
    a.live = some worker := by
  induction log generalizing a with
  | nil => exact hlive
  | cons note log ih =>
      have hnote : note.written? = none := by
        cases hwritten : note.written? with
        | none => rfl
        | some content => simp [Session.written, List.filterMap_cons_some hwritten] at hlog
      rw [Session.written, List.filterMap_cons_none hnote] at hlog
      have hsame : (a.note note).content = a.content := by
        rw [(a.note_fields note).1, hnote, Option.none_or]
      have hnext (hborn : (a.note note).unborn = none) : (a.note note).live = some worker :=
        ih h.2 hborn (hsame.trans hcontent) hlog hlive
      cases a.tells note with
      | wrote request sequence text => exact hnext hunborn
      | spawned => cases hcontent.symm.trans h.1.2.2.2
      | born next setup => cases hunborn.symm.trans h.1.2.2.1
      | terminated next => cases hnext hunborn
      | discarded next => cases hunborn.symm.trans h.1.2.2
      | ran next success output error => exact hnext hunborn
      | heard next request prompt => exact hnext hunborn
      | said next request prompt =>
          simp only [Account.note] at hnext
          rw [said_eq] at hnext
          exact hnext hunborn
      | aside haside =>
          rw [haside.unborn, haside.live] at hnext
          exact hnext hunborn

theorem mem_taken_foldl {log : List Note} {taking : Nat × UInt64} (h : taking ∈ a.taken) :
    taking ∈ (log.foldl Account.note a).taken := by
  induction log generalizing a with
  | nil => exact h
  | cons note log ih =>
      refine ih ?_
      cases note with
      | ended worker request result =>
          simp only [Account.note, ended]
          split
          · split
            · exact List.mem_cons_of_mem _ h
            · exact h
          · exact h
      | did done =>
          cases done with
          | wrote content answer =>
              cases answer with
              | error cause => exact h
              | ok _ => cases content <;> exact h
          | spawned answer => cases answer <;> exact h
          | posted worker command answer =>
              cases answer with
              | error cause => exact h
              | ok _ => cases command <;> exact h
          | _ => exact h
      | heard worker heard =>
          cases heard with
          | event event => cases event <;> exact h
          | _ => exact h
      | said worker event =>
          simp only [Account.note]
          rw [said_eq]
          exact h
      | _ => exact h

end Account

section

variable {config : Config} {url : String} {log : List Note}

theorem exists_written {content : Content} (h : (account config url log).content = some content) :
    ∃ before since, log = before ++ .did (.wrote content (.ok ())) :: since ∧
      Session.written since = [] := by
  induction log using List.reverseRecOn with
  | nil => cases h
  | append_singleton log note ih =>
      simp only [account_append, List.foldl_cons, List.foldl_nil,
        (Account.note_fields _ note).1] at h
      cases hnote : note.written? with
      | none =>
          rw [hnote, Option.none_or] at h
          obtain ⟨before, since, rfl, hsince⟩ := ih h
          refine ⟨before, since ++ [note], by simp, ?_⟩
          simp [Session.written, List.filterMap_append, hnote] at hsince ⊢
          exact hsince
      | some last =>
          rw [hnote, Option.some_or] at h
          cases h
          refine ⟨log, [], ?_, rfl⟩
          cases note with
          | did done =>
              cases done with
              | wrote written answer =>
                  rcases answer with cause | ⟨⟨⟩⟩
                  · cases hnote
                  · cases hnote
                    rfl
              | _ => cases hnote
          | _ => cases hnote

theorem account_lines (config : Config) (url : String) (log : List Note) :
    (account config url log).lines = Session.lines log := by
  induction log using List.reverseRecOn with
  | nil => rfl
  | append_singleton log note ih =>
      rw [account_append, List.foldl_cons, List.foldl_nil, (Account.note_fields _ note).2.1, ih,
        Session.lines, Session.lines, List.countP_append, List.countP_singleton]
      cases note.isLine <;> rfl

theorem calls_of_account {call : Session.Call} (h : (account config url log).call = some call) :
    Session.Calls log call := by
  induction log using List.reverseRecOn with
  | nil => cases h
  | append_singleton log note ih =>
      rw [account_append, List.foldl_cons, List.foldl_nil, (Account.note_fields _ note).2.2] at h
      have hgoes_on (hturn : ¬ note.IsTurn) (hcall : (account config url log).call = some call) :
          Session.Calls (log ++ [note]) call := by
        obtain ⟨before, since, rfl, hsince⟩ := ih hcall
        refine ⟨before, since ++ [note], by simp, fun other hmem => ?_⟩
        rcases List.mem_append.mp hmem with hmem | hmem
        · exact hsince other hmem
        · rwa [List.mem_singleton.mp hmem]
      cases note with
      | called next =>
          obtain rfl : next = call := Option.some.inj h
          exact ⟨log, [], rfl, by simp⟩
      | replied result => simp at h
      | did done => exact hgoes_on (by rintro ⟨⟩) h
      | heard worker heard => exact hgoes_on (by rintro ⟨⟩) h
      | showed session => exact hgoes_on (by rintro ⟨⟩) h
      | said worker event => exact hgoes_on (by rintro ⟨⟩) h
      | ended worker request result => exact hgoes_on (by rintro ⟨⟩) h

/-- The request that is open was made by the worker that the session holds. -/
theorem Orderly.asks {request : UInt64} (h : Orderly config url log)
    (hrequest : (account config url log).request = some request) :
    ∃ worker, (account config url log).live = some worker ∧ Session.Asks log worker request := by
  induction log using List.reverseRecOn with
  | nil => cases hrequest
  | append_singleton log note ih =>
      obtain ⟨horderly, hpermits⟩ := Orderly.snoc.mp h
      have hsound := horderly.sound
      rw [account_append, List.foldl_cons, List.foldl_nil] at hrequest ⊢
      generalize account config url log = a at ih hrequest hpermits hsound ⊢
      have hstays (hsame : (a.note note).request = a.request) (hlive : (a.note note).live = a.live)
          (hnote : ∀ worker, ¬ note.Supersedes worker) :
          ∃ worker, (a.note note).live = some worker ∧
            Session.Asks (log ++ [note]) worker request := by
        obtain ⟨worker, hworker, before, prompt, since, rfl, hsince⟩ :=
          ih horderly (hsame ▸ hrequest)
        refine ⟨worker, hlive.trans hworker, before, prompt, since ++ [note], by simp, ?_⟩
        intro other hmem
        rcases List.mem_append.mp hmem with hmem | hmem
        · exact hsince other hmem
        · rw [List.mem_singleton.mp hmem]
          exact hnote worker
      cases a.tells note with
      | wrote request sequence text => cases hrequest
      | spawned => exact hstays rfl rfl fun _ => id
      | born worker setup =>
          have hclosed := (hsound.dead hpermits.2.1).2.2.2.1
          cases hrequest.symm.trans hclosed
      | terminated worker => cases hrequest
      | discarded worker => exact hstays rfl rfl fun _ => id
      | ran worker success output error => cases hrequest
      | heard worker heard prompt =>
          cases hrequest
          exact ⟨worker, hpermits.2.1, log, prompt, [], rfl, by simp⟩
      | said worker request prompt =>
          refine hstays ?_ ?_ fun _ => id <;> rw [Account.note, Account.said_eq]
      | aside haside => exact hstays haside.request haside.live haside.stays

/-- Of a worker that was spawned the session holds, or it has let go of it. -/
theorem Orderly.held {worker : Nat} (h : Orderly config url log)
    (hlt : worker < (account config url log).spawned) :
    (account config url log).live = some worker ∨ (account config url log).unborn = some worker ∨
      ∃ note ∈ log, note.IsParting worker := by
  induction log using List.reverseRecOn with
  | nil => cases hlt
  | append_singleton log note ih =>
      obtain ⟨horderly, hpermits⟩ := Orderly.snoc.mp h
      rw [account_append, List.foldl_cons, List.foldl_nil] at hlt ⊢
      generalize account config url log = a at ih hlt hpermits ⊢
      have hparted (hparting : ∃ note ∈ log, note.IsParting worker) :
          ∃ other ∈ log ++ [note], other.IsParting worker := by
        obtain ⟨other, hmem, hother⟩ := hparting
        exact ⟨other, List.mem_append_left _ hmem, hother⟩
      have hstays (hspawned : (a.note note).spawned = a.spawned)
          (hlive : (a.note note).live = a.live) (hunborn : (a.note note).unborn = a.unborn) :
          (a.note note).live = some worker ∨ (a.note note).unborn = some worker ∨
            ∃ other ∈ log ++ [note], other.IsParting worker := by
        rw [hlive, hunborn]
        exact (ih horderly (hspawned ▸ hlt)).imp_right (Or.imp_right hparted)
      -- A worker is spawned or born only where none is held, so that none is lost by that.
      cases a.tells note with
      | wrote request sequence text => exact hstays rfl rfl rfl
      | spawned =>
          obtain ⟨-, hlive, hunborn, -⟩ := hpermits
          rcases Nat.lt_succ_iff_lt_or_eq.mp hlt with hlt | rfl
          · rcases ih horderly hlt with hheld | hheld | hparting
            · cases hheld.symm.trans hlive
            · cases hheld.symm.trans hunborn
            · exact .inr (.inr (hparted hparting))
          · exact .inr (.inl rfl)
      | born next setup =>
          obtain ⟨-, hlive, hunborn, -⟩ := hpermits
          rcases ih horderly hlt with hheld | hheld | hparting
          · cases hheld.symm.trans hlive
          · exact .inl (hunborn.symm.trans hheld)
          · exact .inr (.inr (hparted hparting))
      | terminated next =>
          obtain ⟨-, hlive, -⟩ := hpermits
          rcases ih horderly hlt with hheld | hheld | hparting
          · obtain rfl : next = worker := Option.some.inj (hlive.symm.trans hheld)
            exact .inr (.inr ⟨_, List.mem_append_right _ (List.mem_singleton_self _), .inl rfl⟩)
          · exact .inr (.inl hheld)
          · exact .inr (.inr (hparted hparting))
      | discarded next =>
          obtain ⟨-, -, hunborn⟩ := hpermits
          rcases ih horderly hlt with hheld | hheld | hparting
          · exact .inl hheld
          · obtain rfl : next = worker := Option.some.inj (hunborn.symm.trans hheld)
            exact .inr (.inr ⟨_, List.mem_append_right _ (List.mem_singleton_self _), .inr rfl⟩)
          · exact .inr (.inr (hparted hparting))
      | ran next success output error => exact hstays rfl rfl rfl
      | heard next request prompt => exact hstays rfl rfl rfl
      | said next request prompt =>
          refine hstays ?_ ?_ ?_ <;> rw [Account.note, Account.said_eq]
      | aside haside => exact hstays haside.spawned haside.live haside.unborn

theorem Session.asked_snoc (worker : Nat) (log : List Note) (note : Note) :
    asked worker (log ++ [note]) = asked worker log ++ (note.asked? worker).toList := by
  cases hnote : note.asked? worker <;> simp [asked, List.filterMap_append, hnote]

theorem Session.requests_snoc (worker : Nat) (log : List Note) (note : Note) :
    requests worker (log ++ [note]) = requests worker log ++ (note.request? worker).toList := by
  cases hnote : note.request? worker <;> simp [requests, List.filterMap_append, hnote]

theorem Session.asked_other {worker : Nat} {note : Note} (h : note.asked? worker = none)
    (log : List Note) : asked worker (log ++ [note]) = asked worker log := by
  rw [asked_snoc, h, Option.toList_none, List.append_nil]

theorem Session.requests_other {worker : Nat} {note : Note} (h : note.request? worker = none)
    (log : List Note) : requests worker (log ++ [note]) = requests worker log := by
  rw [requests_snoc, h, Option.toList_none, List.append_nil]

end

namespace Session

/-- The account counts the requests of the worker that the session holds. -/
structure Counted (a : Account) (log : List Note) : Prop where
  fresh : ∀ worker, a.spawned ≤ worker ∨ a.unborn = some worker →
    Session.asked worker log = [] ∧ Session.requests worker log = []
  live : ∀ worker, a.live = some worker →
    a.asked = (Session.asked worker log).length ∧ a.requests = (Session.requests worker log).length
  heard : a.requests ≤ a.asked
  opened : ∀ request, a.request = some request →
    0 < a.requests ∧ request = UInt64.ofNat (a.requests - 1)

namespace Counted

variable {a : Account} {log : List Note} {note : Note}

theorem unasked (h : Counted a log) (hunasked : ∀ worker, note.asked? worker = none)
    (hunheard : ∀ worker, note.request? worker = none)
    (hfresh : ∀ worker, (a.note note).spawned ≤ worker ∨ (a.note note).unborn = some worker →
      a.spawned ≤ worker ∨ a.unborn = some worker)
    (hlive : ∀ worker, (a.note note).live = some worker →
      (a.note note).asked = (asked worker log).length ∧
        (a.note note).requests = (requests worker log).length)
    (hheard : (a.note note).requests ≤ (a.note note).asked)
    (hopened : ∀ request, (a.note note).request = some request →
      0 < (a.note note).requests ∧ request = UInt64.ofNat ((a.note note).requests - 1)) :
    Counted (a.note note) (log ++ [note]) := by
  refine ⟨fun worker hworker => ?_, fun worker hworker => ?_, hheard, hopened⟩
  · rw [asked_other (hunasked worker), requests_other (hunheard worker)]
    exact h.fresh worker (hfresh worker hworker)
  · rw [asked_other (hunasked worker), requests_other (hunheard worker)]
    exact hlive worker hworker

theorem ofHeard (h : Counted a log) (hsound : a.Sound) {worker : Nat} {request : UInt64}
    {prompt : Option String} (hheld : a.live = some worker)
    (hgenuine : a.Genuine (.heard worker (.event (.input request prompt)))) :
    Counted (a.note (.heard worker (.event (.input request prompt))))
      (log ++ [.heard worker (.event (.input request prompt))]) := by
  obtain ⟨hspawned, hborn⟩ := hsound.live worker hheld
  obtain ⟨hlt, hnumber⟩ := hgenuine
  refine ⟨fun other hother => ?_, fun other hother => ?_, hlt, ?_⟩
  · have hne : worker ≠ other := by
      rintro rfl
      rcases hother with hle | hsame
      · exact absurd hspawned (Nat.not_lt.mpr hle)
      · cases hsame.symm.trans hborn
    have hunheard :
        Note.request? other (.heard worker (.event (.input request prompt))) = none := if_neg hne
    rw [asked_other rfl, requests_other hunheard]
    exact h.fresh other hother
  · obtain rfl : worker = other := Option.some.inj (hheld.symm.trans hother)
    obtain ⟨hasked, hrequests⟩ := h.live worker hheld
    simp [asked_snoc, requests_snoc, Note.asked?, Note.request?, Account.note, Account.heard,
      hasked, hrequests]
  · rintro _ ⟨⟩
    exact ⟨Nat.succ_pos _, hnumber⟩

theorem ofSaid (h : Counted a log) {worker : Nat} {request : UInt64} {prompt : Option String}
    (hgenuine : a.Genuine (.said worker (.input request prompt))) :
    Counted (a.note (.said worker (.input request prompt)))
      (log ++ [.said worker (.input request prompt)]) := by
  obtain ⟨hspawned, hborn, -⟩ := hgenuine
  have hfields := a.said_eq worker (.input request prompt)
  refine ⟨fun other hother => ?_, fun other hother => ?_, ?_, ?_⟩
  · rw [Account.note, hfields] at hother
    have hne : worker ≠ other := by
      rintro rfl
      rcases hother with hle | hsame
      · exact absurd hspawned (Nat.not_lt.mpr hle)
      · exact hborn hsame
    have hunasked : Note.asked? other (.said worker (.input request prompt)) = none := if_neg hne
    rw [asked_other hunasked, requests_other rfl]
    exact h.fresh other hother
  · rw [Account.note, hfields] at hother
    obtain ⟨hasked, hrequests⟩ := h.live other hother
    -- Only what the worker says that the session holds is counted.
    by_cases hsame : worker = other
    · subst hsame
      have hheld : a.live = some worker := hother
      simp [asked_snoc, requests_snoc, Note.asked?, Note.request?, Account.note, Account.said,
        hheld, hasked, hrequests]
    · have hheld : a.live ≠ some worker := by
        rw [show a.live = some other from hother]
        exact fun hsome => hsame (Option.some.inj hsome).symm
      simp [asked_snoc, requests_snoc, Note.asked?, Note.request?, Account.note, Account.said,
        hheld, hsame, hasked, hrequests]
  · simp only [Account.note, Account.said]
    split
    · exact Nat.le_succ_of_le h.heard
    · exact h.heard
  · rw [Account.note, hfields]
    exact h.opened

theorem snoc (h : Counted a log) (hsound : a.Sound) (hpermits : a.Permits note)
    (hgenuine : a.Genuine note) : Counted (a.note note) (log ++ [note]) := by
  have hnobody {worker : Nat} (hnone : a.live = none) (hsome : a.live = some worker) : False := by
    cases hnone.symm.trans hsome
  cases a.tells note with
  | wrote request sequence text =>
      exact h.unasked (fun _ => rfl) (fun _ => rfl) (fun _ => id) h.live h.heard (by rintro _ ⟨⟩)
  | spawned =>
      obtain ⟨-, hnone, -⟩ := hpermits
      refine h.unasked (fun _ => rfl) (fun _ => rfl) (fun worker hworker => .inl ?_)
        (fun worker hworker => (hnobody hnone hworker).elim) h.heard h.opened
      rcases hworker with hle | hsame
      · exact Nat.le_of_succ_le hle
      · exact Nat.le_of_eq (Option.some.inj hsame)
  | born next setup =>
      obtain ⟨-, hnone, hunborn, -⟩ := hpermits
      refine h.unasked (fun _ => rfl) (fun _ => rfl)
        (fun worker hworker => .inl (hworker.resolve_right (by rintro ⟨⟩)))
        (fun worker hworker => ?_) h.heard h.opened
      obtain rfl : next = worker := Option.some.inj hworker
      obtain ⟨hasked, hrequests⟩ := h.fresh next (.inr hunborn)
      obtain ⟨-, -, hnoRequests, -, -, -, hnoAsked⟩ := hsound.dead hnone
      rw [hasked, hrequests]
      exact ⟨hnoAsked, hnoRequests⟩
  | terminated next =>
      exact h.unasked (fun _ => rfl) (fun _ => rfl) (fun _ => id) (by rintro _ ⟨⟩) (Nat.le_refl _)
        (by rintro _ ⟨⟩)
  | discarded next =>
      obtain ⟨-, hnone, -⟩ := hpermits
      exact h.unasked (fun _ => rfl) (fun _ => rfl)
        (fun worker hworker => .inl (hworker.resolve_right (by rintro ⟨⟩)))
        (fun worker hworker => (hnobody hnone hworker).elim) h.heard h.opened
  | ran next success output error =>
      exact h.unasked (fun _ => rfl) (fun _ => rfl) (fun _ => id) h.live h.heard (by rintro _ ⟨⟩)
  | heard next request prompt => exact h.ofHeard hsound hpermits.2.1 hgenuine
  | said next request prompt => exact h.ofSaid hgenuine
  | aside haside =>
      obtain ⟨hspawned, hunborn, hheld, hasked, hrequests, hrequest, hunasked, hunheard, -⟩ :=
        haside
      refine h.unasked hunasked hunheard ?_ ?_ ?_ ?_
      · rw [hspawned, hunborn]
        exact fun _ => id
      · rw [hheld, hasked, hrequests]
        exact h.live
      · rw [hasked, hrequests]
        exact h.heard
      · rw [hrequests, hrequest]
        exact h.opened

end Counted
end Session

theorem Orderly.counted {config : Config} {url : String} {log : List Note}
    (h : Orderly config url log) (hgenuine : (Account.new config url).Along Account.Genuine log) :
    Session.Counted (account config url log) log := by
  induction log using List.reverseRecOn with
  | nil => exact ⟨fun _ _ => ⟨rfl, rfl⟩, (by rintro _ ⟨⟩), Nat.le_refl _, (by rintro _ ⟨⟩)⟩
  | append_singleton log note ih =>
      obtain ⟨horderly, hpermits⟩ := Orderly.snoc.mp h
      obtain ⟨hearlier, hnote, -⟩ := Account.along_append.mp hgenuine
      rw [account_append, List.foldl_cons, List.foldl_nil]
      exact (ih horderly hearlier).snoc horderly.sound hpermits hnote

end ScriptConsole
