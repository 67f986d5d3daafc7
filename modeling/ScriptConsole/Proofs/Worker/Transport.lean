import ScriptConsole.Proofs.Wire.RoundTrip
import ScriptConsole.Proofs.Worker.Modes
import ScriptConsole.Worker.Stream

/-!
A worker behind two streams does what it does when it is handed its commands and its events are
taken as they are, whatever lines that carry no message come between the frames. Behind a stream
with files of its own it therefore leaves the frames of these events.
-/

namespace ScriptConsole

namespace Work

variable {δ ε α β : Type}

/-- The result of a worker's work, if it ends, and the state in which it ends or waits for ever. -/
def runTo (around : Surroundings ε) : Work α → ε → Option α × ε
  | done a, e => (some a, e)
  | post event next, e =>
      let (r, e) := around.post event e
      runTo around (next r) e
  | await bridge request next, e =>
      match around.await bridge request e with
      | none => (none, e)
      | some ((r, bridge), e) => runTo around (next r bridge) e
  | openBuffer url interval next, e =>
      let (r, e) := around.openBuffer url interval e
      runTo around (next r) e

theorem runIn_eq (around : Surroundings ε) (work : Work α) (e : ε) :
    work.runIn around e = (work.runTo around e).1.map fun a => (a, (work.runTo around e).2) := by
  induction work generalizing e with
  | done a => rfl
  | post event next ih => exact ih _ _
  | await bridge request next ih =>
      simp only [runIn, runTo]
      cases around.await bridge request e with
      | none => rfl
      | some left => exact ih _ _ _
  | openBuffer url interval next ih => exact ih _ _

theorem runTo_bind (around : Surroundings ε) (work : Work α) (f : α → Work β) (e : ε) :
    (work.bind f).runTo around e =
      match work.runTo around e with
      | (some a, e) => (f a).runTo around e
      | (none, e) => (none, e) := by
  induction work generalizing e with
  | done a => rfl
  | post event next ih => exact ih _ _
  | await bridge request next ih =>
      simp only [bind, runTo]
      cases around.await bridge request e with
      | none => rfl
      | some left => exact ih _ _ _
  | openBuffer url interval next ih => exact ih _ _

/-- Surroundings that look alike to a worker: they answer alike as their states correspond. -/
structure Surroundings.Views (here : Surroundings δ) (there : Surroundings ε) (view : δ → ε) :
    Prop where
  post : ∀ event s,
    there.post event (view s) = ((here.post event s).1, view (here.post event s).2)
  await : ∀ bridge request s, there.await bridge request (view s) =
    (here.await bridge request s).map fun left => (left.1, view left.2)
  openBuffer : ∀ url interval s, there.openBuffer url interval (view s) =
    ((here.openBuffer url interval s).1, view (here.openBuffer url interval s).2)

theorem Surroundings.Views.runTo {here : Surroundings δ} {there : Surroundings ε} {view : δ → ε}
    (h : here.Views there view) (work : Work α) (s : δ) :
    work.runTo there (view s) = ((work.runTo here s).1, view (work.runTo here s).2) := by
  induction work generalizing s with
  | done a => rfl
  | post event next ih =>
      simp only [Work.runTo, h.post]
      exact ih _ _
  | await bridge request next ih =>
      simp only [Work.runTo, h.await]
      cases here.await bridge request s with
      | none => rfl
      | some left => exact ih _ _ _
  | openBuffer url interval next ih =>
      simp only [Work.runTo, h.openBuffer]
      exact ih _ _

/-- The surroundings of a worker apart from where its events go: the buffer that it reads, and
the other end, which does something as it hears an event. -/
structure Setting (ε : Type) where
  hear : Event → ε → ε
  await : Bridge → UInt64 → ε → Option ((Except HostError String × Bridge) × ε)
  openBuffer : String → Duration → ε → Except BufferError Unit × ε

namespace Setting

/-- The other end takes the events as they are, as far as the sink accepts them. What the sink
says to an event may depend on those before. -/
def direct (setting : Setting ε) (sink : List Event → Event → Except Refusal Unit) :
    Surroundings (List Event × ε) where
  post event s :=
    match sink s.1 event with
    | .ok () => (.ok (), s.1 ++ [event], setting.hear event s.2)
    | .error refusal => (.error refusal, s)
  await bridge request s :=
    (setting.await bridge request s.2).map fun left => (left.1, s.1, left.2)
  openBuffer url interval s :=
    let (answer, e) := setting.openBuffer url interval s.2
    (answer, s.1, e)

/-- The events are written as frames, and the other end hears what it reads in them. -/
def framed (setting : Setting ε) : Surroundings (Outlet × ε) where
  post event s :=
    match s.1.write (Text.toBytes (Event.format.encode event)) with
    | .ok outlet =>
        (.ok (), outlet, (Channel.piped.carry Event.format event).foldl
          (fun e heard => setting.hear heard e) s.2)
    | .error cause => (.error ⟨.io cause, false⟩, s)
  await bridge request s :=
    (setting.await bridge request s.2).map fun left => (left.1, s.1, left.2)
  openBuffer url interval s :=
    let (answer, e) := setting.openBuffer url interval s.2
    (answer, s.1, e)

/-- The buffer that commands name is there: it can be opened, and opening it changes nothing. -/
def Holds (setting : Setting ε) (commands : List Command) : Prop :=
  ∀ setup, Command.init setup ∈ commands → ∀ interval e,
    setting.openBuffer setup.bufferUrl interval e = (.ok (), e)

end Setting
end Work

namespace Outlet

variable {ε : Type}

/-- An outlet to which events have been written. -/
def holding (capacity : Option (Nat × IoError)) (events : List Event) : Outlet :=
  ⟨Text.toBytes (Event.format.stream events), capacity⟩

theorem holding_nil (capacity : Option (Nat × IoError)) : holding capacity [] = new capacity := by
  rw [holding, Wire.Format.stream, Text.toBytes_empty]
  rfl

/-- A sink that takes the events whose frames the outlet has room for. -/
def sink (capacity : Option (Nat × IoError)) (taken : List Event) (event : Event) :
    Except Refusal Unit :=
  match (holding capacity taken).write (Text.toBytes (Event.format.encode event)) with
  | .ok _ => .ok ()
  | .error cause => .error ⟨.io cause, false⟩

@[simp]
theorem sink_none (taken : List Event) (event : Event) : sink none taken event = .ok () := rfl

theorem write_holding {capacity : Option (Nat × IoError)} {taken : List Event} {event : Event}
    {outlet : Outlet} (h : (holding capacity taken).write
      (Text.toBytes (Event.format.encode event)) = .ok outlet) :
    outlet = holding capacity (taken ++ [event]) := by
  have hstream : Text.toBytes (Event.format.stream (taken ++ [event])) =
      Text.toBytes (Event.format.stream taken) ++ Text.toBytes (Event.format.encode event) := by
    rw [Wire.Format.stream_append, Wire.Format.stream, Wire.Format.stream, String.append_empty,
      Text.toBytes_append]
  rw [holding, hstream]
  rw [write, holding] at h
  split at h
  · exact (Except.ok.inj h).symm
  · split at h
    · cases h
    · exact (Except.ok.inj h).symm

/-- An outlet looks to a worker as one that takes its events as they are. -/
theorem views (setting : Work.Setting ε) (capacity : Option (Nat × IoError)) :
    (setting.direct (sink capacity)).Views setting.framed
      fun s => (holding capacity s.1, s.2) where
  post event s := by
    simp only [Work.Setting.framed, Work.Setting.direct, sink, Channel.carry_event]
    cases hwrite : (holding capacity s.1).write (Text.toBytes (Event.format.encode event)) with
    | error cause => rfl
    | ok outlet => rw [write_holding hwrite]; rfl
  await bridge request s := by
    simp only [Work.Setting.framed, Work.Setting.direct, Option.map_map]
    rfl
  openBuffer url interval s := rfl

theorem runTo_framed {α : Type} (setting : Work.Setting ε) (capacity : Option (Nat × IoError))
    (work : Work α) (e : ε) :
    work.runTo setting.framed (.new capacity, e) =
      let handled := work.runTo (setting.direct (sink capacity)) ([], e)
      (handled.1, holding capacity handled.2.1, handled.2.2) := by
  rw [← holding_nil]
  exact (views setting capacity).runTo work ([], e)

end Outlet

namespace Worker

variable {σ ε : Type}

/-- Handle commands one after the other, up to a reply that is not taken. -/
def handleAll (worker : Worker σ) : List Command → Work (Except TransportError Unit)
  | [] => return .ok ()
  | command :: commands => do
      match ← worker.handle command with
      | (.ok (), worker) => worker.handleAll commands
      | (.error cause, _) => return .error cause

/-- A worker that serves a stream handles the commands in it. -/
theorem serve_readable (worker : Worker σ) (lines : List String) :
    worker.serve (lines.map .ok) =
      worker.handleAll (Wire.messages Command.format (lines.map .ok)) := by
  induction lines generalizing worker with
  | nil => rfl
  | cons line lines ih =>
      rw [List.map_cons, serve, serveLine, Wire.messages]
      split
      · exact ih worker
      · cases Command.format.decode line.toList with
        | error cause => exact ih worker
        | ok command =>
            refine (bind_assoc _ _ _).trans (congrArg _ (funext fun left => ?_))
            obtain ⟨result, worker⟩ := left
            cases result with
            | error cause => rfl
            | ok done => exact ih worker

/-- Lines that carry no message make no difference to the commands that are handled. -/
theorem serve_padded (worker : Worker σ) {commands : List Command} {input : String}
    (hinput : Wire.Padded Command.format (Command.format.stream commands) input) :
    worker.serve (Text.streamLines (Text.toBytes input)) = worker.handleAll commands := by
  have hmessages := hinput.messages_stream Command.faithful
  obtain ⟨lines, hlines⟩ := hinput.readable
  rw [hlines] at hmessages ⊢
  rw [serve_readable, hmessages]

/-- The reply to a command, and the interpreter afterwards. -/
def reply (worker : Worker σ) : Command → Work (Event × Option (Live σ))
  | .init setup => worker.boot setup
  | .run code => worker.runCode code

theorem handleAll_cons (worker : Worker σ) (command : Command) (commands : List Command) :
    worker.handleAll (command :: commands) = (worker.reply command).bind fun reply =>
      .post reply.1 fun
        | .ok () => { worker with live := reply.2 }.handleAll commands
        | .error refusal => .done (.error refusal.error) := by
  have hreply : worker.handle command = (worker.reply command).bind worker.conclude := by
    rw [handle_eq]
    cases command <;> rfl
  rw [handleAll, hreply]
  refine (Work.bind_assoc _ _ _).trans (congrArg _ (funext fun reply => ?_))
  refine congrArg (Work.post reply.1) (funext fun answer => ?_)
  rcases answer with refusal | ⟨⟨⟩⟩ <;> rfl

/-- Only a reply that is not taken is a failure. -/
theorem eq_ok_of_handleAll (worker : Worker σ) {setting : Work.Setting ε}
    {sink : List Event → Event → Except Refusal Unit}
    (hsink : ∀ taken event, sink taken event = .ok ()) {commands : List Command}
    {s : List Event × ε} {result : Except TransportError Unit}
    (h : ((worker.handleAll commands).runTo (setting.direct sink) s).1 = some result) :
    result = .ok () := by
  induction commands generalizing worker s with
  | nil => exact (Option.some.inj h).symm
  | cons command commands ih =>
      rw [handleAll_cons, Work.runTo_bind] at h
      generalize (worker.reply command).runTo (setting.direct sink) s = replied at h
      obtain ⟨reply | reply, s⟩ := replied
      · cases h
      · have hpost : (setting.direct sink).post reply.1 s =
            (.ok (), s.1 ++ [reply.1], setting.hear reply.1 s.2) := by
          simp only [Work.Setting.direct, hsink]
        simp only [Work.runTo, hpost] at h
        exact ih { worker with live := reply.2 } h

/-- A worker that the buffer is handed to, in place of one that opens it. -/
def attached (worker : Worker σ) : Worker σ :=
  { worker with source := .attached }

/-- Where a worker finds the buffer makes no difference to its replies if the buffer is there. -/
theorem runTo_reply_attached (worker : Worker σ) {setting : Work.Setting ε}
    {sink : List Event → Event → Except Refusal Unit} {command : Command}
    (hholds : setting.Holds [command]) (s : List Event × ε) :
    (worker.attached.reply command).runTo (setting.direct sink) s =
      (worker.reply command).runTo (setting.direct sink) s := by
  cases command with
  | run code => rfl
  | init setup =>
      have hopen := hholds setup (List.mem_singleton_self _) (interval setup) s.2
      rw [reply, reply, boot_eq, boot_eq]
      cases hsource : worker.source with
      | attached => rfl
      | byUrl =>
          simp only [attached, openBuffer, Work.bind, Work.runTo, Work.Setting.direct, hopen]

theorem runTo_attached (worker : Worker σ) {setting : Work.Setting ε}
    {sink : List Event → Event → Except Refusal Unit} {commands : List Command}
    (hholds : setting.Holds commands) (s : List Event × ε) :
    (worker.attached.handleAll commands).runTo (setting.direct sink) s =
      (worker.handleAll commands).runTo (setting.direct sink) s := by
  induction commands generalizing worker s with
  | nil => rfl
  | cons command commands ih =>
      have hfirst : setting.Holds [command] := fun setup hmem =>
        hholds setup (List.mem_cons.mpr (.inl (List.mem_singleton.mp hmem)))
      have hrest : setting.Holds commands := fun setup hmem =>
        hholds setup (List.mem_cons_of_mem command hmem)
      rw [handleAll_cons, handleAll_cons, Work.runTo_bind, Work.runTo_bind,
        runTo_reply_attached worker hfirst]
      obtain ⟨reply | reply, s⟩ := (worker.reply command).runTo (setting.direct sink) s
      · rfl
      · change Work.runTo _ (.post reply.1 _) s = Work.runTo _ (.post reply.1 _) s
        rw [Work.runTo, Work.runTo]
        -- The two workers go on with the same interpreter, if the reply was taken.
        generalize (setting.direct sink).post reply.1 s = answer
        obtain ⟨refusal | ⟨⟨⟩⟩, s⟩ := answer
        · rfl
        · exact ih { worker with live := reply.2 } hrest s

/-- A worker behind two streams handles exactly the commands whose frames come in; and a worker
that is handed the commands posts exactly the events that are read from the frames which the
first one writes, whether the two come to an end or wait for ever. Lines that carry no message may
be inserted on both ways, and it makes no difference how the second one comes by the buffer. -/
theorem transport_transparent (interpreter : Interpreter σ) (source : BufferSource)
    (setting : Work.Setting ε) (capacity : Option (Nat × IoError)) {commands : List Command}
    {input : String} (hinput : Wire.Padded Command.format (Command.format.stream commands) input)
    (hsource : source = .attached → setting.Holds commands) (e : ε) :
    (∀ worker : Worker σ,
      worker.serve (Text.streamLines (Text.toBytes input)) = worker.handleAll commands) ∧
    let served := ((new interpreter .byUrl).serve (Text.streamLines (Text.toBytes input))).runTo
      setting.framed (.new capacity, e)
    let handled := ((new interpreter source).handleAll commands).runTo
      (setting.direct (Outlet.sink capacity)) ([], e)
    served.1 = handled.1 ∧ served.2.2 = handled.2.2 ∧
      served.2.1.written = Text.toBytes (Event.format.stream handled.2.1) ∧
      ∀ received, Wire.Padded Event.format (Event.format.stream handled.2.1) received →
        Wire.messages Event.format (Text.streamLines (Text.toBytes received)) = handled.2.1 := by
  have hserve (worker : Worker σ) := worker.serve_padded hinput
  have hattached : ((new interpreter source).handleAll commands).runTo
      (setting.direct (Outlet.sink capacity)) ([], e) =
        ((new interpreter .byUrl).handleAll commands).runTo
          (setting.direct (Outlet.sink capacity)) ([], e) := by
    cases source with
    | byUrl => rfl
    | attached => exact runTo_attached (new interpreter .byUrl) (hsource rfl) ([], e)
  refine ⟨hserve, ?_⟩
  intro served handled
  have hserved : served = (handled.1, Outlet.holding capacity handled.2.1, handled.2.2) := by
    simp only [served, handled, hserve, hattached, Outlet.runTo_framed]
  rw [hserved]
  exact ⟨rfl, rfl, rfl, fun received hreceived => hreceived.messages_stream Event.faithful⟩

theorem transport_transparent_of_print :
    let printer : Interpreter Unit :=
      { boot := fun _ => .ready ()
        load := fun _ state => .done (.ok (), state)
        run := fun code state => .stdout code fun _ => .done (.ok (some code), state) }
    let setting : Work.Setting Unit :=
      { hear := fun _ _ => (), await := fun _ _ _ => none, openBuffer := fun _ _ _ => (.ok (), ()) }
    let input := "" ++ "\n" ++ (Command.format.encode (.init ⟨"/", "0", [], none, none⟩) ++
      ("ready\r" ++ "\n" ++ Command.format.encode (.run "a\r\n\"b\"")))
    let events : List Event := [.initOk, .stdout "a\r\n\"b\"", .runOk (some "a\r\n\"b\"")]
    let served := ((new printer .byUrl).serve (Text.streamLines (Text.toBytes input))).runTo
      setting.framed (.new none, ())
    served.1 = some (.ok ()) ∧
      served.2.1.written = Text.toBytes (Event.format.stream events) ∧
      ∀ received, Wire.Padded Event.format (Event.format.stream events) received →
        Wire.messages Event.format (Text.streamLines (Text.toBytes received)) = events := by
  intro printer setting input events served
  let commands : List Command := [.init ⟨"/", "0", [], none, none⟩, .run "a\r\n\"b\""]
  have hnoise : Command.format.IsNoise "ready\r" := by
    have hread : Json.read ['r', 'e', 'a', 'd', 'y'] =
        .error ⟨.expectedValue, ['r', 'e', 'a', 'd', 'y']⟩ := by
      simp only [Json.read, Json.readValue, Json.readFrom]
      rfl
    have htrim : Text.trim "ready\r".toList = ['r', 'e', 'a', 'd', 'y'] := by decide
    refine ⟨by decide, .inr ?_⟩
    rw [Wire.Format.decode, htrim, hread]
    exact ⟨_, rfl⟩
  have hinput : Wire.Padded Command.format (Command.format.stream commands) input := by
    refine .noise ⟨by decide, .inl rfl⟩ (.encode (Command.faithful _) (.noise hnoise ?_))
    have hlast : Wire.Padded Command.format _ _ :=
      .encode (Command.faithful (.run "a\r\n\"b\"")) .empty
    rwa [String.append_empty] at hlast
  have hhandled : ((new printer .attached).handleAll commands).runTo
      (setting.direct (Outlet.sink none)) ([], ()) = (some (.ok ()), events, ()) := rfl
  obtain ⟨-, hresult, -, hwritten, hreads⟩ :=
    transport_transparent printer .attached setting none hinput (fun _ _ _ _ _ => rfl) ()
  rw [hhandled] at hresult hwritten hreads
  exact ⟨hresult, hwritten, hreads⟩

end Worker

namespace Stream

/-- Files that nobody else changes are one of the settings in which a worker talks over streams. -/
def setting : Work.Setting (Files × Option FileBuffer) where
  hear _ s := s
  await bridge request s :=
    (await bridge request ⟨.new none, s.1, s.2⟩).map fun left => (left.1, s)
  openBuffer url interval s :=
    let (answer, stream) := openBuffer url interval ⟨.new none, s.1, s.2⟩
    (answer, stream.files, stream.file)

theorem views : setting.framed.Views around fun s => ⟨s.1, s.2.1, s.2.2⟩ where
  post event s := by
    simp only [around, post, Work.Setting.framed]
    cases s.1.write (Text.toBytes (Event.format.encode event)) with
    | error cause => rfl
    | ok outlet =>
        rw [Channel.carry_event]
        rfl
  await bridge request s := by
    change (Option.map _ _) = Option.map _ (Option.map _ (Option.map _ (Option.map _ _)))
    rw [Option.map_map, Option.map_map, Option.map_map]
    rfl
  openBuffer url interval s := by
    simp only [around, openBuffer, Work.Setting.framed, setting]
    cases FileBuffer.ofUrl url s.2.1 <;> rfl

variable {σ : Type} {commands : List Command} {input : String}

/-- What a worker leaves of its work behind streams: its result, if it comes to an end, and the
frames of the events that it posts where they are taken as they are. -/
theorem serve_new (interpreter : Interpreter σ) (capacity : Option (Nat × IoError))
    (files : Files) (hinput : Wire.Padded Command.format (Command.format.stream commands) input) :
    let handled := ((Worker.new interpreter .byUrl).handleAll commands).runTo
      (setting.direct (Outlet.sink capacity)) ([], files, none)
    serve interpreter (Text.toBytes input) (.new capacity files) = handled.1.map fun result =>
      (result, ⟨Outlet.holding capacity handled.2.1, handled.2.2.1, handled.2.2.2⟩) := by
  intro handled
  have hserved := views.runTo ((Worker.new interpreter .byUrl).handleAll commands)
    (.new capacity, files, none)
  rw [Outlet.runTo_framed] at hserved
  rw [serve, Worker.serve_padded _ hinput, Work.runIn_eq]
  exact congrArg (fun left => left.1.map fun result => (result, left.2)) hserved

/-- Behind a stream that takes every byte a worker does not fail. -/
theorem serve_new_ok {interpreter : Interpreter σ} {files : Files}
    (hinput : Wire.Padded Command.format (Command.format.stream commands) input)
    {result : Except TransportError Unit} {stream : Stream}
    (hserve : serve interpreter (Text.toBytes input) (.new none files) = some (result, stream)) :
    result = .ok () := by
  rw [serve_new interpreter none files hinput, Option.map_eq_some_iff] at hserve
  obtain ⟨handled, hhandled, hresult⟩ := hserve
  obtain rfl := congrArg Prod.fst hresult
  exact Worker.eq_ok_of_handleAll _ Outlet.sink_none hhandled

end Stream
end ScriptConsole
