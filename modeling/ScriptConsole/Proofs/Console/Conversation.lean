import ScriptConsole.Console.Start
import ScriptConsole.Proofs.Session.Accepting

/-!
Conversations of the console. Whatever the user types and whatever the workers say or fail to
say, the user is asked for a line only when the session takes one.
-/

namespace ScriptConsole.Console

/-- The console can come to have this session and this to do next, with the buffer in memory. -/
inductive Conversation (config : Config) (url : String) (first : Next) : Session → Next → Prop where
  | start : Conversation config url first (.new config url) first
  | call {session last : Session} {call : Session.Call} {thenWait : Bool}
      {result : Except SessionError Reply}
      (h : Conversation config url first session (.call call thenWait))
      (hyields : (session.call call).Yields result last) :
      Conversation config url first (afterCall last thenWait result).1
        (afterCall last thenWait result).2
  | asked {session : Session} (h : Conversation config url first session .ask)
      (typed : Option (Except IoError String)) :
      Conversation config url first (afterAsking session typed).1 (afterAsking session typed).2.2

/-- What the console does next suits its session. -/
inductive Next.Suits (session : Session) : Next → Prop where
  | ask (h : session.Attentive) : Suits session .ask
  | leave : Suits session .leave
  | start : Suits session (.call .start false)
  | line (h : session.Attentive) (text : String) : Suits session (.call (.line text) true)
  | source (h : session.Attentive) (name : String) (text : Except IoError String) :
      Suits session (.call (.runSource name text) true)
  | wait (h : session.AwaitsOpen) : Suits session (.call (.wait none) false)

variable {session : Session}

theorem Next.Suits.lands {call : Session.Call} {thenWait : Bool} (hsettled : session.Settled)
    (h : Next.Suits session (.call call thenWait)) :
    (session.call call).Lands (Session.Welcomes thenWait) := by
  cases h with
  | start => exact Session.launch_lands session (.inl rfl)
  | line h text => exact Session.line_lands hsettled h text
  | source h name text =>
      cases text with
      | error cause => exact h.fail (by rintro ⟨⟩)
      | ok code => exact Session.launch_lands _ (.inr rfl)
  | wait h => exact Session.awaitQuiet_lands hsettled h

theorem Next.Suits.yields {call : Session.Call} {thenWait : Bool} {last : Session}
    {result : Except SessionError Reply} (hsettled : session.Settled)
    (h : Next.Suits session (.call call thenWait))
    (hyields : (session.call call).Yields result last) :
    last.Settled ∧ Session.Welcomes thenWait (.reply result, last) := by
  refine Move.Yields.lands (P := fun stand =>
    Session.StandsWell stand ∧ Session.Welcomes thenWait stand) hyields ?_ ?_
  · rintro session goal heard ⟨hlistens, hwelcomes⟩ hquiet
    exact (Session.Listens.hear hlistens heard).lands
      (Session.hear_lands hlistens hwelcomes hquiet)
  · exact (hsettled.call call).lands (h.lands hsettled)

theorem suits_afterCall {thenWait : Bool} {result : Except SessionError Reply}
    (hsettled : session.Settled) (h : Session.Welcomes thenWait (.reply result, session)) :
    (afterCall session thenWait result).1.Settled ∧
      (afterCall session thenWait result).2.Suits (afterCall session thenWait result).1 := by
  cases result with
  | error error => exact ⟨hsettled.print .error _, .ask (h.1.print .error _)⟩
  | ok reply =>
      obtain ⟨hawaits, haccepts⟩ := h
      refine ⟨hsettled, ?_⟩
      cases thenWait with
      | true => exact .wait hawaits
      | false => exact .ask ⟨hawaits, haccepts rfl⟩

theorem suits_obey (hsettled : session.Settled) (h : session.Attentive) (order : Order) :
    (obey session order).1.Settled ∧ (obey session order).2.2.Suits (obey session order).1 := by
  cases order with
  | quit => exact ⟨hsettled, .leave⟩
  | restart => exact ⟨hsettled, .start⟩
  | clear => exact ⟨hsettled.alike rfl rfl rfl rfl rfl, .ask ⟨h.awaits, h.accepts⟩⟩
  | history => exact ⟨hsettled, .ask h⟩
  | state => exact ⟨hsettled, .ask h⟩
  | unknown name => exact ⟨hsettled, .ask h⟩

theorem suits_afterAsking (hsettled : session.Settled) (h : session.Attentive)
    (typed : Option (Except IoError String)) : (afterAsking session typed).1.Settled ∧
      (afterAsking session typed).2.2.Suits (afterAsking session typed).1 := by
  match typed with
  | none => exact ⟨hsettled, .leave⟩
  | some (.error cause) => exact ⟨hsettled, .leave⟩
  | some (.ok line) =>
      rw [afterAsking, afterLine]
      split
      · exact suits_obey hsettled h _
      · exact ⟨hsettled, .line h line⟩

theorem suits_first {place : Place} {arguments : Arguments} {config : Config} {url : String}
    {first : Next} (hfirst : Console.first place arguments config = .ok first) :
    first.Suits (.new config url) := by
  have hattentive : (Session.new config url).Attentive :=
    ⟨fun hopen => absurd rfl hopen, Session.accepts_of_ne_run (by rintro ⟨⟩)⟩
  rw [Console.first] at hfirst
  split at hfirst
  · cases hfirst
    exact .start
  · split at hfirst
    · cases hfirst
      exact .source hattentive _ _
    · cases hfirst

variable {place : Place} {arguments : Arguments} {config : Config} {url : String}
  {first next : Next}

theorem Conversation.suits (hfirst : Console.first place arguments config = .ok first)
    (h : Conversation config url first session next) : session.Settled ∧ next.Suits session := by
  induction h with
  | start => exact ⟨Session.new_settled config url, suits_first hfirst⟩
  | call _ hyields ih =>
      obtain ⟨hsettled, hsuits⟩ := ih
      obtain ⟨hlast, hwelcomes⟩ := hsuits.yields hsettled hyields
      exact suits_afterCall hlast hwelcomes
  | asked _ typed ih =>
      obtain ⟨hsettled, hsuits⟩ := ih
      cases hsuits with
      | ask hattentive => exact suits_afterAsking hsettled hattentive typed

/-- When the user is asked for a line, no run is pending or the run waits for a line. So no typed
line is turned away because of a run, and the user is asked to go on with a statement just when
lines of one are there and no line of input is waited for. -/
theorem prompt_takes_line (hfirst : Console.first place arguments config = .ok first) :
    (∀ session, Conversation config url first session .ask →
      (session.isRunPending = false ∨ session.isAwaitingInput = true) ∧
      (prompt session = "... " ↔
        session.isAwaitingInput = false ∧ session.statements.isEmpty = false)) ∧
    ∀ session text thenWait result last,
      Conversation config url first session (.call (.line text) thenWait) →
      (session.call (.line text)).Yields result last → result ≠ .error .runInFlight := by
  constructor
  · intro session h
    obtain ⟨-, hsuits⟩ := h.suits hfirst
    cases hsuits with
    | ask hattentive =>
        constructor
        · cases hrun : session.isRunPending with
          | false => exact .inl rfl
          | true => exact .inr (hattentive.accepts hrun)
        · rw [prompt]
          cases session.isAwaitingInput <;> cases session.statements.isEmpty <;> decide
  · intro session text thenWait result last h hyields
    obtain ⟨hsettled, hsuits⟩ := h.suits hfirst
    obtain ⟨-, hwelcomes⟩ := hsuits.yields hsettled hyields
    rintro rfl
    exact hwelcomes.2 rfl

/-- A script that asks for a line in the console. -/
theorem prompt_takes_line_while_asked :
    ∃ session, Conversation .default "memory://0" (.call .start false) session .ask ∧
      session.isRunPending = true ∧ session.isAwaitingInput = true := by
  have hwritten {done : Done} (hdone : ∀ content cause, done ≠ .wrote content (.error cause)) :
      ∀ content answer, done = .wrote content answer → answer = .ok () := by
    rintro content (cause | _) rfl
    · exact absurd rfl (hdone content cause)
    · rfl
  have started : Conversation .default "memory://0" (.call .start false) _ _ :=
    .call .start (.deed (.write (.ok ())) (hwritten (by rintro _ _ ⟨⟩))
      (.deed (.spawn (.ok ())) (hwritten (by rintro _ _ ⟨⟩))
        (.deed (.post (.ok ())) (hwritten (by rintro _ _ ⟨⟩))
          (.hear rfl (.event .initOk) (by rintro ⟨⟩) (.reply _ _)))))
  have typed : Conversation .default "memory://0" (.call .start false) _
      (.call (.line "input()") true) :=
    started.asked (some (.ok "input()"))
  have posted : Conversation .default "memory://0" (.call .start false) _
      (.call (.wait none) false) :=
    typed.call (.deed (.post (.ok ())) (hwritten (by rintro _ _ ⟨⟩)) (.reply _ _))
  have waited : Conversation .default "memory://0" (.call .start false) _ .ask :=
    posted.call (.hear rfl (.event (.input 0 none)) (by rintro ⟨⟩)
      (.deed (.write (.ok ())) (hwritten (by rintro _ _ ⟨⟩)) (.reply _ _)))
  obtain ⟨haccepts, -⟩ :=
    (@prompt_takes_line ⟨⟨[]⟩, .empty⟩ .none .default "memory://0" _ rfl).1 _ waited
  exact ⟨_, waited, rfl, haccepts.resolve_left (by rintro ⟨⟩)⟩

end ScriptConsole.Console
