import ScriptConsole.System.Lane

/-!
What a worker is in the middle of, and the trees of services that suit it: a worker replies to a
command once, its requests for input carry the numbers of its bridge, and it goes on with the
bridge that a wait leaves.
-/

namespace ScriptConsole

/-- What a worker is in the middle of. -/
inductive Mode where
  | booting
  /-- It runs a text, over its bridge if it has one. -/
  | running (bridge : Option Bridge)
  /-- Its script has asked for a line. -/
  | asking (bridge : Bridge) (request : UInt64)
  /-- It has replied to every command that it has taken. -/
  | replied (bridge : Option Bridge)

namespace Mode

/-- The bridge over which the next request will be made. -/
def bridge? : Mode → Option Bridge
  | booting => none
  | running bridge => bridge
  | asking bridge _ => some bridge
  | replied bridge => bridge

/-- The replies to texts that are still to come. -/
def owes : Mode → Nat
  | running _ | asking _ _ => 1
  | booting | replied _ => 0

end Mode

variable {σ : Type}

/-- The work suits the mode. A worker with this source opens the buffer at no other URL. -/
inductive Work.Fits (source : BufferSource) (url : String) :
    Mode → Work (Except TransportError Unit × Worker σ) → Prop where
  | done {worker : Worker σ} (result : Except TransportError Unit)
      (hsource : worker.source = source) :
      Fits source url (.replied (worker.live.map (·.bridge))) (.done (result, worker))
  | openBuffer {interval : Duration} {next} (hsource : source = .byUrl)
      (hnext : ∀ answer, Fits source url .booting (next answer)) :
      Fits source url .booting (.openBuffer url interval next)
  | booted {success : Bool} {error : Option String} {bridge : Option Bridge} {next}
      (hfresh : ∀ fresh, bridge = some fresh → fresh.nextRequest = 0 ∧ fresh.lastSequence = none)
      (hnext : ∀ answer, Fits source url (.replied bridge) (next answer)) :
      Fits source url .booting (.post (.init success error) next)
  | stdout {bridge : Option Bridge} {text : String} {next}
      (hnext : ∀ answer, Fits source url (.running bridge) (next answer)) :
      Fits source url (.running bridge) (.post (.stdout text) next)
  | stderr {bridge : Option Bridge} {text : String} {next}
      (hnext : ∀ answer, Fits source url (.running bridge) (next answer)) :
      Fits source url (.running bridge) (.post (.stderr text) next)
  | input {bridge : Bridge} {prompt : Option String} {next}
      (htaken : Fits source url (.asking bridge.advance bridge.nextRequest) (next (.ok ())))
      (hrefused : ∀ refusal, Fits source url (.running bridge.advance) (next (.error refusal))) :
      Fits source url (.running bridge) (.post (.input bridge.nextRequest prompt) next)
  | await {bridge : Bridge} {request : UInt64} {next}
      (hnext : ∀ result left, Fits source url (.running (some left)) (next result left)) :
      Fits source url (.asking bridge request) (.await bridge request next)
  | ran {bridge left : Option Bridge} {success : Bool} {output error : Option String} {next}
      (hleft : left = none ∨ left = bridge)
      (hnext : ∀ answer, Fits source url (.replied left) (next answer)) :
      Fits source url (.running bridge) (.post (.run success output error) next)

/-- What a worker is at suits the mode. -/
inductive Task.Fits (source : BufferSource) (url : String) : Mode → Task σ → Prop where
  | idle {worker : Worker σ} (hsource : worker.source = source) :
      Fits source url (.replied (worker.live.map (·.bridge))) (.idle worker)
  | busy {mode : Mode} {work : Work (Except TransportError Unit × Worker σ)}
      (hwork : work.Fits source url mode) : Fits source url mode (.busy work)
  | waiting {wait : Bridge.Wait} {next}
      (hnext : ∀ result left, (next result left : Work _).Fits source url (.running (some left))) :
      Fits source url (.asking wait.bridge wait.request) (.waiting wait next)
  | ended : Fits source url (.replied none) .ended

namespace Worker

variable {source : BufferSource} {url : String}

/-- The reply to a command, after which the worker is ready for the next one. -/
def conclude (worker : Worker σ) (reply : Event × Option (Live σ)) :
    Work (Except TransportError Unit × Worker σ) :=
  .post reply.1 fun
    | .ok () => .done (.ok (), { worker with live := reply.2 })
    | .error refusal => .done (.error refusal.error, { worker with live := reply.2 })

theorem handle_eq (worker : Worker σ) (command : Command) :
    worker.handle command =
      (match command with
        | .init setup => worker.boot setup
        | .run code => worker.runCode code).bind worker.conclude := by
  have hsend (reply : Event × Option (Live σ)) : (do
      match ← Work.send reply.1 with
      | .ok () => return (.ok (), { worker with live := reply.2 })
      | .error refusal => return (.error refusal.error, { worker with live := reply.2 })) =
        worker.conclude reply := by
    rw [conclude]
    refine congrArg (Work.post reply.1) (funext fun answer => ?_)
    rcases answer with refusal | ⟨⟨⟩⟩ <;> rfl
  cases command <;> exact congrArg _ (funext hsend)

theorem conclude_done {worker : Worker σ} (hsource : worker.source = source)
    (reply : Event × Option (Live σ)) (answer : Except Refusal Unit) :
    (match answer with
      | .ok () => .done (.ok (), { worker with live := reply.2 })
      | .error refusal => .done (.error refusal.error, { worker with live := reply.2 }) :
      Work (Except TransportError Unit × Worker σ)).Fits source url
      (.replied (reply.2.map (·.bridge))) := by
  rcases answer with refusal | ⟨⟨⟩⟩
  · exact @Work.Fits.done _ _ _ { worker with live := reply.2 } _ hsource
  · exact @Work.Fits.done _ _ _ { worker with live := reply.2 } _ hsource

/-- What a worker has to say of an interpreter that was to boot, and what it keeps of it. -/
def started (setup : Setup) : Boot σ → Event × Option (Live σ)
  | .ready state => (.initOk, some ⟨state, newBridge setup⟩)
  | .refused reason => (.initFailed reason, none)
  | .panicked message => (.initFailed (panicReason message), none)

/-- What a worker has to say of a text that has ended, and what it keeps of the interpreter. -/
def report : (Ending (Option String) × σ) × Bridge → Event × Option (Live σ)
  | ((.ok output, state), bridge) => (.runOk output, some ⟨state, bridge⟩)
  | ((.raised error, state), bridge) => (.runFailed error.text, some ⟨state, bridge⟩)
  | ((.panicked message, _), _) => (.runFailed (panicReason message), none)

theorem boot_eq (worker : Worker σ) (setup : Setup) :
    worker.boot setup = (openBuffer worker.source setup).bind fun
      | .error cause => .done (.initFailed cause.message, none)
      | .ok () => .done
          (started setup (worker.interpreter.boot ⟨setup.baseUrl, setup.packages⟩)) := by
  refine congrArg _ (funext fun answer => ?_)
  rcases answer with cause | ⟨⟨⟩⟩
  · rfl
  · cases worker.interpreter.boot ⟨setup.baseUrl, setup.packages⟩ <;> rfl

theorem runCode_eq {worker : Worker σ} {live : Live σ} (hlive : worker.live = some live)
    (code : String) : (worker.runCode code).bind worker.conclude =
      (Work.ofDialogue live.bridge (worker.interpreter.loadAndRun code live.state)).bind
        fun result => worker.conclude (report result) := by
  simp only [runCode, hlive]
  refine (Work.bind_assoc _ _ _).trans (congrArg _ (funext fun result => ?_))
  obtain ⟨⟨ending, state⟩, bridge⟩ := result
  cases ending <;> rfl

theorem boot_fits {worker : Worker σ} (hsource : worker.source = source) {setup : Setup}
    (hurl : setup.bufferUrl = url) :
    ((worker.boot setup).bind worker.conclude).Fits source url .booting := by
  have hfailed (reason : String) : (worker.conclude (.initFailed reason, none)).Fits source url
      .booting :=
    @Work.Fits.booted _ _ _ _ _ none _ (by rintro _ ⟨⟩)
      (conclude_done hsource (.initFailed reason, none))
  have hstarted : (worker.conclude (started setup
      (worker.interpreter.boot ⟨setup.baseUrl, setup.packages⟩))).Fits source url .booting := by
    cases worker.interpreter.boot ⟨setup.baseUrl, setup.packages⟩ with
    | ready state =>
        refine @Work.Fits.booted _ _ _ _ _ (some (newBridge setup)) _ ?_
          (conclude_done hsource (.initOk, some ⟨state, newBridge setup⟩))
        rintro _ ⟨⟩
        exact ⟨rfl, rfl⟩
    | refused reason => exact hfailed reason
    | panicked message => exact hfailed _
  rw [boot_eq, hsource]
  cases source with
  | attached => exact hstarted
  | byUrl =>
      rw [openBuffer, hurl]
      refine .openBuffer rfl fun answer => ?_
      rcases answer with cause | ⟨⟨⟩⟩
      · exact hfailed _
      · exact hstarted

theorem ofDialogue_fits {α : Type} (dialogue : Dialogue α) (bridge : Bridge)
    (next : α × Bridge → Work (Except TransportError Unit × Worker σ))
    (hnext : ∀ result left, (next (result, left)).Fits source url (.running (some left))) :
    ((Work.ofDialogue bridge dialogue).bind next).Fits source url (.running (some bridge)) := by
  induction dialogue generalizing bridge with
  | done result => exact hnext result bridge
  | stdout text more ih => exact .stdout fun answer => ih (Work.toHost answer) bridge
  | stderr text more ih => exact .stderr fun answer => ih (Work.toHost answer) bridge
  | stdin prompt more ih =>
      rw [Work.ofDialogue, Work.bind]
      refine .input ?_ ?_
      · exact .await fun line left => ih line left
      · exact fun refusal => ih (.error refusal.toHostError) bridge.advance

theorem runCode_fits {worker : Worker σ} (hsource : worker.source = source) (code : String) :
    ((worker.runCode code).bind worker.conclude).Fits source url
      (.running (worker.live.map (·.bridge))) := by
  cases hlive : worker.live with
  | none =>
      simp only [runCode, hlive]
      exact .ran (.inl rfl) (conclude_done hsource (.runFailed notInitialized, none))
  | some live =>
      rw [runCode_eq hlive]
      refine ofDialogue_fits _ _ _ fun result left => ?_
      obtain ⟨ending, state⟩ := result
      cases ending with
      | ok output =>
          exact .ran (.inr rfl) (conclude_done hsource (.runOk output, some ⟨state, left⟩))
      | raised error =>
          exact .ran (.inr rfl) (conclude_done hsource (.runFailed error.text, some ⟨state, left⟩))
      | panicked message =>
          exact .ran (.inl rfl) (conclude_done hsource (.runFailed (panicReason message), none))

end Worker
end ScriptConsole
