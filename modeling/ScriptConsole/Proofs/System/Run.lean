import ScriptConsole.Proofs.System.Service

/-!
Every run of a system. Its log is orderly, its session agrees with the account of the log, and so
do the buffer and the worker that the session holds. Workers that the session has let go of may
still be at work, but nothing that they say is heard, and they write nothing.
-/

namespace ScriptConsole

variable {σ : Type}

/-- A lane of a session with this buffer. -/
structure Lane.Sane (lane : Lane σ) (source : BufferSource) (buffer : SharedBuffer) : Prop where
  fits : ∃ mode, lane.task.Fits source buffer.url mode
  setups : ∀ setup, .init setup ∈ lane.inbox → setup.bufferUrl = buffer.url
  reads : lane.Reads buffer

namespace Lane.Sane

variable {lane lane' : Lane σ} {source : BufferSource} {buffer : SharedBuffer}
  {storage storage' : Storage}

theorem goes {worker : Nat} {mode mode' : Mode} {notes : List Note} {content : Content}
    (h : lane.Sane source buffer) (hnamed : source = .byUrl → buffer.Named)
    (hholds : buffer.Holds content storage) (hfits : lane'.task.Fits source buffer.url mode')
    (hgoes : lane.Goes source buffer.url (buffer.read storage) storage worker mode notes mode' lane'
      storage') : lane'.Sane source buffer ∧ storage' = storage := by
  cases hgoes with
  | opened hsource hopen =>
      obtain ⟨rfl, file, hbuffer, hpath⟩ := hholds.ofUrl (hnamed hsource) hopen
      refine ⟨⟨⟨_, hfits⟩, h.setups, ?_⟩, rfl⟩
      rintro _ ⟨⟩
      exact ⟨file, hbuffer, hpath⟩
  | boot hinbox =>
      exact ⟨⟨⟨_, hfits⟩, fun setup hmem => h.setups setup (by simp [hinbox, hmem]), h.reads⟩, rfl⟩
  | run hinbox =>
      exact ⟨⟨⟨_, hfits⟩, fun setup hmem => h.setups setup (by simp [hinbox, hmem]), h.reads⟩, rfl⟩
  | _ => exact ⟨⟨⟨_, hfits⟩, h.setups, h.reads⟩, rfl⟩

theorem new (interpreter : Interpreter σ) (source : BufferSource) (buffer : SharedBuffer) :
    (Lane.new (.new interpreter source)).Sane source buffer :=
  ⟨⟨_, .idle rfl⟩, (by rintro _ ⟨⟩), (by rintro _ ⟨⟩)⟩

theorem ended (h : lane.Sane source buffer) :
    ({ lane with task := .ended } : Lane σ).Sane source buffer :=
  ⟨⟨_, .ended⟩, h.setups, h.reads⟩

theorem stop (h : lane.Sane source buffer) (channel : Channel) :
    (lane.stop channel).Sane source buffer := by
  cases channel with
  | direct => exact ⟨h.fits, h.setups, h.reads⟩
  | piped => exact ⟨⟨_, .ended⟩, h.setups, h.reads⟩

end Lane.Sane

namespace World

/-- A worker in another process finds the buffer of the session by its URL. -/
def Shares (world : World σ) : Prop :=
  world.channel = .piped → world.buffer.isReachable = true → world.buffer.Named

/-- The workers and the buffer of a session with this account. -/
structure Houses (world : World σ) (a : Account) : Prop where
  shares : world.Shares
  url : world.buffer.url = a.url
  spawned : world.lanes.length = a.spawned
  reachable : world.lanes ≠ [] → world.channel = .piped → world.buffer.isReachable = true
  written : world.lanes ≠ [] → ∃ content, a.content = some content
  holds : ∀ content, a.content = some content → world.buffer.Holds content world.storage
  sane : ∀ (worker : Nat) (lane : Lane σ), world.lanes[worker]? = some lane →
    lane.Sane world.channel.source world.buffer

/-- What the worker with this number is at suits the mode. -/
def Fits (world : World σ) (worker : Nat) (lane : Lane σ) (mode : Mode) : Prop :=
  world.lanes[worker]? = some lane ∧ lane.task.Fits world.channel.source world.buffer.url mode

/-- The surroundings of a session are as its account tells. -/
structure Tends (world : World σ) (a : Account) : Prop extends Houses world a where
  live : ∀ worker, a.live = some worker →
    ∃ lane mode, world.Fits worker lane mode ∧ lane.Serves worker mode a
  unborn : ∀ worker, a.unborn = some worker →
    ∃ lane, world.Fits worker lane (.replied none) ∧ lane.Unborn

variable {world world' : World σ} {a a' : Account} {lane lane' : Lane σ} {worker other : Nat}
  {mode mode' : Mode}

theorem lookup_set (hlane : world.lanes[worker]? = some lane) (lane' : Lane σ) (other : Nat) :
    (world.lanes.set worker lane')[other]? =
      if other = worker then some lane' else world.lanes[other]? := by
  obtain ⟨hlt, -⟩ := List.getElem?_eq_some_iff.mp hlane
  rw [List.getElem?_set]
  by_cases hsame : worker = other
  · simp [hsame, hsame ▸ hlt]
  · simp [hsame, Ne.symm hsame]

theorem modify_lane (world : World σ) (worker : Nat) (f : Lane σ → Lane σ) :
    world.lanes.modify worker f = world.lanes ∨ ∃ lane, world.lanes[worker]? = some lane ∧
      world.lanes.modify worker f = world.lanes.set worker (f lane) := by
  cases hlane : world.lanes[worker]? with
  | none => exact .inl (List.modify_eq_self (by simpa using hlane))
  | some lane =>
      have : Inhabited (Lane σ) := ⟨lane⟩
      refine .inr ⟨lane, rfl, ?_⟩
      rw [List.modify_eq_set, hlane, Option.getD_some]

theorem Fits.set_other (h : world.Fits other lane' mode) (hlane : world.lanes[worker]? = some lane)
    (hother : other ≠ worker) (next : Lane σ) :
    ({ world with lanes := world.lanes.set worker next } : World σ).Fits other lane' mode := by
  refine ⟨?_, h.2⟩
  rw [lookup_set hlane, if_neg hother]
  exact h.1

theorem Fits.set (hlane : world.lanes[worker]? = some lane)
    (hfits : lane'.task.Fits world.channel.source world.buffer.url mode) :
    ({ world with lanes := world.lanes.set worker lane' } : World σ).Fits worker lane' mode := by
  refine ⟨?_, hfits⟩
  rw [lookup_set hlane, if_pos rfl]

namespace Houses

theorem told (h : world.Houses a) (hurl : a'.url = a.url) (hspawned : a'.spawned = a.spawned)
    (hcontent : a'.content = a.content) : world.Houses a' where
  shares := h.shares
  url := h.url.trans hurl.symm
  spawned := h.spawned.trans hspawned.symm
  reachable := h.reachable
  written := by rw [hcontent]; exact h.written
  holds := by rw [hcontent]; exact h.holds
  sane := h.sane

theorem set (h : world.Houses a) (hlane : world.lanes[worker]? = some lane)
    (hsane : lane'.Sane world.channel.source world.buffer) :
    ({ world with lanes := world.lanes.set worker lane' } : World σ).Houses a where
  shares := h.shares
  url := h.url
  spawned := by simpa using h.spawned
  reachable hsome := h.reachable (by simpa using hsome)
  written hsome := h.written (by simpa using hsome)
  holds := h.holds
  sane other next hnext := by
    rw [lookup_set hlane] at hnext
    split at hnext
    · cases hnext
      exact hsane
    · exact h.sane other next hnext

theorem content (h : world.Houses a) (hlane : world.lanes[worker]? = some lane) :
    ∃ content, a.content = some content ∧ world.buffer.Holds content world.storage := by
  have hsome : world.lanes ≠ [] := by
    rintro hnil
    simp [hnil] at hlane
  obtain ⟨content, hcontent⟩ := h.written hsome
  exact ⟨content, hcontent, h.holds content hcontent⟩

theorem named (h : world.Houses a) (hlane : world.lanes[worker]? = some lane)
    (hsource : world.channel.source = .byUrl) : world.buffer.Named := by
  have hsome : world.lanes ≠ [] := by
    rintro hnil
    simp [hnil] at hlane
  have hpiped : world.channel = .piped := by
    cases hchannel : world.channel with
    | direct => simp [hchannel, Channel.source] at hsource
    | piped => rfl
  exact h.shares hpiped (h.reachable hsome hpiped)

end Houses

namespace Tends

theorem alike (h : world.Tends a) (halike : a'.Alike a) : world.Tends a' where
  toHouses := h.toHouses.told halike.url halike.spawned halike.content
  live worker hlive := by
    obtain ⟨lane, mode, hfits, hserves⟩ := h.live worker (halike.live ▸ hlive)
    exact ⟨lane, mode, hfits, hserves.alike halike⟩
  unborn := by rw [halike.unborn]; exact h.unborn

theorem set_live (h : world.Tends a) (hlane : world.lanes[worker]? = some lane)
    (hsane : lane'.Sane world.channel.source world.buffer) (hurl : a'.url = a.url)
    (hspawned : a'.spawned = a.spawned) (hcontent : a'.content = a.content)
    (hlive : a'.live = some worker) (hunborn : a'.unborn = none)
    (hfits : lane'.task.Fits world.channel.source world.buffer.url mode)
    (hserves : lane'.Serves worker mode a') :
    ({ world with lanes := world.lanes.set worker lane' } : World σ).Tends a' where
  toHouses := (h.toHouses.set hlane hsane).told hurl hspawned hcontent
  live other hother := by
    obtain rfl : worker = other := Option.some.inj (hlive.symm.trans hother)
    exact ⟨lane', mode, .set hlane hfits, hserves⟩
  unborn := by simp [hunborn]

theorem set_other (h : world.Tends a) (hlane : world.lanes[worker]? = some lane)
    (hsane : lane'.Sane world.channel.source world.buffer) (hlive : a.live ≠ some worker)
    (hunborn : a.unborn = some worker →
      lane'.task.Fits world.channel.source world.buffer.url (.replied none) ∧ lane'.Unborn) :
    ({ world with lanes := world.lanes.set worker lane' } : World σ).Tends a where
  toHouses := h.toHouses.set hlane hsane
  live other hother := by
    obtain ⟨held, mode, hfits, hserves⟩ := h.live other hother
    exact ⟨held, mode, hfits.set_other hlane (fun hsame => hlive (hsame ▸ hother)) _, hserves⟩
  unborn other hother := by
    by_cases hsame : other = worker
    · subst hsame
      obtain ⟨hfits, hquiet⟩ := hunborn hother
      exact ⟨lane', .set hlane hfits, hquiet⟩
    · obtain ⟨held, hfits, hquiet⟩ := h.unborn other hother
      exact ⟨held, hfits.set_other hlane hsame _, hquiet⟩

/-! ### What workers do -/

theorem idle_of_unborn {source : BufferSource} {url : String} {content : Except BufferError Content}
    {storage storage' : Storage} {notes : List Note} (hunborn : lane.Unborn)
    (hgoes : lane.Goes source url content storage worker (.replied none) notes mode' lane'
      storage') :
    notes = [] ∧ mode' = .replied none ∧ lane'.Unborn := by
  obtain ⟨hopen, hinbox, houtbox⟩ := hunborn
  cases hgoes with
  | stopping hstopped => simp [hopen] at hstopped
  | boot hsome => simp [hinbox] at hsome
  | run hsome => simp [hinbox] at hsome
  | _ => exact ⟨rfl, rfl, hopen, hinbox, houtbox⟩

theorem goes_other {source : BufferSource} {url : String} {content : Except BufferError Content}
    {storage storage' : Storage} {notes : List Note} (hspawned : worker < a.spawned)
    (hunborn : a.unborn = some worker → notes = []) (hlive : a.live ≠ some worker)
    (hgoes : lane.Goes source url content storage worker mode notes mode' lane' storage') :
    a.Along Account.Genuine notes ∧ notes.foldl Account.note a = a := by
  rcases hgoes.notes_cases with rfl | ⟨event, rfl⟩ | ⟨request, result, rfl⟩
  · exact ⟨trivial, rfl⟩
  · cases event with
    | input request prompt =>
        refine ⟨⟨⟨hspawned, fun hsame => ?_, fun hsame => absurd hsame hlive⟩, trivial⟩,
          if_neg hlive⟩
        cases hunborn hsame
    | _ => exact ⟨⟨trivial, trivial⟩, rfl⟩
  · cases result with
    | error cause => exact ⟨⟨trivial, trivial⟩, rfl⟩
    | ok text =>
        refine ⟨⟨⟨hspawned, fun hsame => ?_, fun hsame => absurd hsame hlive⟩, trivial⟩, ?_⟩
        · cases hunborn hsame
        · simp only [List.foldl_cons, List.foldl_nil, Account.note, Account.ended, if_neg hlive]
          split <;> rfl

theorem suits_goes {source : BufferSource} {url : String} {content : Except BufferError Content}
    {storage storage' : Storage} {notes : List Note} {stage : Stage} (hsuits : stage.Suits a)
    (hgoes : lane.Goes source url content storage worker mode notes mode' lane' storage') :
    a.Allows notes ∧ stage.Suits (notes.foldl Account.note a) ∧
      ∃ asked taken, notes.foldl Account.note a = a.telling asked taken := by
  rcases hgoes.notes_cases with rfl | ⟨event, rfl⟩ | ⟨request, result, rfl⟩
  · exact ⟨trivial, hsuits, a.asked, a.taken, rfl⟩
  · obtain ⟨hpermits, hsaid⟩ := hsuits.said worker event
    exact ⟨⟨hpermits, trivial⟩, hsaid, a.said_telling worker event⟩
  · obtain ⟨hpermits, hended⟩ := hsuits.ended worker request result
    exact ⟨⟨hpermits, trivial⟩, hended, a.ended_telling worker result⟩

theorem exists_mode (h : world.Tends a) (hsound : a.Sound)
    (hlane : world.lanes[worker]? = some lane) :
    ∃ mode, lane.task.Fits world.channel.source world.buffer.url mode ∧
      (a.live = some worker → lane.Serves worker mode a) ∧
      (a.unborn = some worker → mode = .replied none ∧ lane.Unborn) := by
  by_cases hlive : a.live = some worker
  · obtain ⟨held, mode, ⟨hheld, hfits⟩, hserves⟩ := h.live worker hlive
    obtain rfl : lane = held := Option.some.inj (hlane.symm.trans hheld)
    refine ⟨mode, hfits, fun _ => hserves, fun hunborn => ?_⟩
    cases hunborn.symm.trans (hsound.live worker hlive).2
  · by_cases hunborn : a.unborn = some worker
    · obtain ⟨held, ⟨hheld, hfits⟩, hquiet⟩ := h.unborn worker hunborn
      obtain rfl : lane = held := Option.some.inj (hlane.symm.trans hheld)
      exact ⟨_, hfits, fun hsame => absurd hsame hlive, fun _ => ⟨rfl, hquiet⟩⟩
    · obtain ⟨mode, hfits⟩ := (h.sane worker lane hlane).fits
      exact ⟨mode, hfits, fun hsame => absurd hsame hlive, fun hsame => absurd hsame hunborn⟩

theorem work {storage : Storage} {stage : Stage} (h : world.Tends a) (hsuits : stage.Suits a)
    (hlane : world.lanes[worker]? = some lane)
    (hstep : lane.step world.channel world.buffer world.clock world.storage =
      some (lane', storage)) :
    let notes := lane.notes worker world.buffer world.clock world.storage
    (a.Allows notes ∧ a.Along Account.Genuine notes) ∧ stage.Suits (notes.foldl Account.note a) ∧
      ({ world with lanes := world.lanes.set worker lane', storage } : World σ).Tends
        (notes.foldl Account.note a) := by
  have hsound := hsuits.sound
  have hsane := h.sane worker lane hlane
  obtain ⟨content, hcontent, hholds⟩ := h.content hlane
  obtain ⟨mode, hfits, hserves, hunborn⟩ := h.exists_mode hsound hlane
  have hread : lane.read world.buffer world.storage = world.buffer.read world.storage :=
    hsane.reads.read_eq
  obtain ⟨mode', hfits', hgoes⟩ := lane.step_goes worker hfits hsane.setups hstep
  rw [hread] at hgoes
  obtain ⟨hsane', rfl⟩ := hsane.goes (h.named hlane) hholds hfits' hgoes
  obtain ⟨hallows, hsuits', asked, taken, htelling⟩ := suits_goes hsuits hgoes
  by_cases hlive : a.live = some worker
  · obtain ⟨hgenuine, hserves'⟩ := (hserves hlive).goes_on hsound hlive (fun other hother => by
      rw [hholds.read] at hother
      cases hother
      exact hcontent) hgoes
    refine ⟨⟨hallows, hgenuine⟩, hsuits', ?_⟩
    rw [htelling] at hserves' ⊢
    exact h.set_live hlane hsane' rfl rfl rfl hlive (hsound.live worker hlive).2 hfits' hserves'
  · -- A worker that was told nothing yet says nothing, and the others are of no account any more.
    have hidle (hsame : a.unborn = some worker) :
        lane.notes worker world.buffer world.clock world.storage = [] ∧ mode' = .replied none ∧
          lane'.Unborn := by
      obtain ⟨rfl, hquiet⟩ := hunborn hsame
      exact idle_of_unborn hquiet hgoes
    have hspawned : worker < a.spawned := by
      rw [← h.spawned]
      exact (List.getElem?_eq_some_iff.mp hlane).1
    obtain ⟨hgenuine, hsame⟩ := goes_other hspawned (fun hsame => (hidle hsame).1) hlive hgoes
    refine ⟨⟨hallows, hgenuine⟩, hsuits', ?_⟩
    rw [hsame]
    refine h.set_other hlane hsane' hlive fun hsame => ?_
    obtain ⟨-, rfl, hquiet⟩ := hidle hsame
    exact ⟨hfits', hquiet⟩

/-! ### What else happens -/

theorem crash (h : world.Tends a) (hsound : a.Sound) (worker : Nat) :
    (world.crash worker).Tends a := by
  rcases world.modify_lane worker fun lane => { lane with task := .ended } with
    hsame | ⟨lane, hlane, hset⟩
  · simpa only [World.crash, hsame] using h
  · simp only [World.crash, hset]
    have hsane := (h.sane worker lane hlane).ended
    by_cases hlive : a.live = some worker
    · obtain ⟨held, mode, ⟨hheld, -⟩, hserves⟩ := h.live worker hlive
      obtain rfl : lane = held := Option.some.inj (hlane.symm.trans hheld)
      exact h.set_live hlane hsane rfl rfl rfl hlive (hsound.live worker hlive).2 .ended
        (hserves.fail .ended)
    · refine h.set_other hlane hsane hlive fun hunborn => ⟨.ended, ?_⟩
      obtain ⟨held, ⟨hheld, -⟩, hquiet⟩ := h.unborn worker hunborn
      obtain rfl : lane = held := Option.some.inj (hlane.symm.trans hheld)
      exact ⟨hquiet.goes, hquiet.inbox, hquiet.outbox⟩

theorem elapse (h : world.Tends a) (clock : Nat) (jam : Option IoError) :
    ({ world with clock, jam } : World σ).Tends a := by
  obtain ⟨hhouses, hlive, hunborn⟩ := h
  exact ⟨{ hhouses with }, hlive, hunborn⟩

theorem terminate (h : world.Tends a) (worker : Nat) (hurl : a'.url = a.url)
    (hspawned : a'.spawned = a.spawned) (hcontent : a'.content = a.content) (hlive : a'.live = none)
    (hunborn : a'.unborn = none) : (world.terminate worker).Tends a' := by
  have hhouses : (world.terminate worker).Houses a := by
    rcases world.modify_lane worker (Lane.stop world.channel) with hsame | ⟨lane, hlane, hset⟩
    · simpa only [World.terminate, hsame] using h.toHouses
    · simp only [World.terminate, hset]
      exact h.toHouses.set hlane ((h.sane worker lane hlane).stop world.channel)
  exact ⟨hhouses.told hurl hspawned hcontent, by simp [hlive], by simp [hunborn]⟩

theorem spawn (h : world.Tends a) (hlive : a.live = none) (hcontent : a.content = some .empty)
    (hreachable : world.channel = .piped → world.buffer.isReachable = true) :
    ({ world with
      lanes := world.lanes ++ [.new (.new world.interpreter world.channel.source)] } :
        World σ).Tends (a.did (.spawned (.ok ()))) where
  shares := h.shares
  url := h.url
  spawned := by simpa [Account.did] using h.spawned
  reachable _ := hreachable
  written _ := ⟨_, hcontent⟩
  holds := h.holds
  sane worker lane hlane := by
    rw [List.getElem?_append] at hlane
    split at hlane
    · exact h.sane worker lane hlane
    · rw [List.getElem?_singleton] at hlane
      split at hlane
      · cases hlane
        exact .new _ _ _
      · cases hlane
  live worker hworker := by simp [Account.did, hlive] at hworker
  unborn worker hworker := by
    obtain rfl : a.spawned = worker := by simpa [Account.did] using hworker
    refine ⟨.new (.new world.interpreter world.channel.source),
      ⟨?_, @Task.Fits.idle _ _ _ (.new world.interpreter world.channel.source) rfl⟩, rfl, rfl, rfl⟩
    rw [← h.spawned]
    exact List.getElem?_concat_length

theorem post {command : Command} (h : world.Tends a) (hsound : a.Sound)
    (hmay : a.May (.posted worker command (.ok ()))) (hlane : world.lanes[worker]? = some lane) :
    ({ world with lanes := world.lanes.set worker { lane with
        inbox := lane.inbox ++ world.channel.carry Command.format command } } : World σ).Tends
      (a.posted worker command) := by
  rw [Channel.carry_command]
  have hsane := h.sane worker lane hlane
  cases command with
  | init setup =>
      obtain ⟨hlive, hunborn, hsetup⟩ := hmay
      obtain ⟨held, ⟨hheld, hfits⟩, hquiet⟩ := h.unborn worker hunborn
      obtain rfl : lane = held := Option.some.inj (hlane.symm.trans hheld)
      refine h.set_live hlane ⟨hsane.fits, ?_, hsane.reads⟩ rfl rfl rfl rfl rfl hfits
        (hquiet.told hsound hlive hunborn setup)
      intro other hmem
      obtain rfl : other = setup := by simpa [hquiet.inbox] using hmem
      cases hsetup
      exact h.url.symm
  | run code =>
      obtain ⟨hlive, -⟩ := hmay
      obtain ⟨held, mode, ⟨hheld, hfits⟩, hserves⟩ := h.live worker hlive
      obtain rfl : lane = held := Option.some.inj (hlane.symm.trans hheld)
      refine h.set_live hlane ⟨hsane.fits, ?_, hsane.reads⟩ rfl rfl rfl hlive
        (hsound.live worker hlive).2 hfits (hserves.told code)
      exact fun other hmem => hsane.setups other (by simpa using hmem)

theorem write {content : Content} {storage : Storage} (h : world.Tends a)
    (hmay : a.May (.wrote content (.ok ())))
    (hwrite : world.buffer.write content world.storage = .ok storage) :
    ({ world with storage } : World σ).Tends (a.wrote content) := by
  have hfields : (a.wrote content).url = a.url ∧ (a.wrote content).spawned = a.spawned ∧
      (a.wrote content).content = some content ∧ (a.wrote content).live = a.live ∧
        (a.wrote content).unborn = a.unborn := by
    cases content <;> exact ⟨rfl, rfl, rfl, rfl, rfl⟩
  obtain ⟨hurl, hspawned, hcontent, hlive, hunborn⟩ := hfields
  refine ⟨⟨h.shares, h.url.trans hurl.symm, h.spawned.trans hspawned.symm, h.reachable,
    fun _ => ⟨content, hcontent⟩, ?_, h.sane⟩, fun worker hworker => ?_, ?_⟩
  · intro held hheld
    obtain rfl : content = held := Option.some.inj (hcontent.symm.trans hheld)
    exact SharedBuffer.holds_write hwrite
  · rw [hlive] at hworker
    obtain ⟨lane, mode, hfits, hserves⟩ := h.live worker hworker
    exact ⟨lane, mode, hfits, hserves.wrote hworker hmay⟩
  · rw [hunborn]
    exact h.unborn

theorem does {done : Done} (h : world.Tends a) (hsound : a.Sound) (hmay : a.May done)
    (hdoes : world.Does done world') : world'.Tends (a.did done) := by
  cases hdoes with
  | wrote hwrite => exact h.write hmay hwrite
  | unwritten content cause => exact h
  | spawned hreachable => exact h.spawn hmay.1 hmay.2.2 hreachable
  | unspawned cause => exact h
  | posted hlane hopen hgoes => exact h.post hsound hmay hlane
  | unposted worker command cause => exact h
  | terminated worker =>
      exact h.terminate worker rfl rfl rfl rfl (hsound.live worker hmay.1).2
  | discarded worker => exact h.terminate worker rfl rfl rfl hmay.1 rfl

theorem expects {heard : Heard} (h : world.Tends a) (hsound : a.Sound)
    (hlive : a.live = some worker) (hfollows : world.Follows (.heard worker heard) world') :
    a.Expects heard := by
  cases hfollows with
  | heard hlane houtbox =>
      obtain ⟨held, mode, ⟨hheld, -⟩, hserves⟩ := h.live worker hlive
      obtain rfl := Option.some.inj (hlane.symm.trans hheld)
      exact (hserves.heard hsound houtbox).1
  | _ => trivial

/-- The surroundings follow what the session notes. -/
theorem follows {note : Note} (h : world.Tends a) (hsound : a.Sound) (hpermits : a.Permits note)
    (hfollows : world.Follows note world') : a.Genuine note ∧ world'.Tends (a.note note) := by
  cases hfollows with
  | called call =>
      exact ⟨trivial, h.alike ⟨rfl, rfl, rfl, rfl, rfl, rfl, rfl, rfl, rfl, rfl, rfl, rfl⟩⟩
  | did hdoes => exact ⟨trivial, h.does hsound hpermits.2 hdoes⟩
  | @heard worker lane event outbox hlane houtbox =>
      obtain ⟨-, hlive, -⟩ := hpermits
      obtain ⟨held, mode, ⟨hheld, hfits⟩, hserves⟩ := h.live worker hlive
      obtain rfl : lane = held := Option.some.inj (hlane.symm.trans hheld)
      have hsane := h.sane worker lane hlane
      have hunborn := (hsound.live worker hlive).2
      obtain ⟨-, hgenuine, hserves'⟩ := hserves.heard hsound houtbox
      refine ⟨hgenuine, ?_⟩
      have hsane' : ({ lane with outbox } : Lane σ).Sane world.channel.source world.buffer :=
        ⟨hsane.fits, hsane.setups, hsane.reads⟩
      cases event <;> exact h.set_live hlane hsane' rfl rfl rfl hlive hunborn hfits hserves'
  | quiet worker =>
      exact ⟨trivial, h.alike ⟨rfl, rfl, rfl, rfl, rfl, rfl, rfl, rfl, rfl, rfl, rfl, rfl⟩⟩
  | gone hgone =>
      exact ⟨trivial, h.alike ⟨rfl, rfl, rfl, rfl, rfl, rfl, rfl, rfl, rfl, rfl, rfl, rfl⟩⟩

theorem shows {more : List Note} (h : world.Tends a)
    (hmore : ∀ note ∈ more,
      (∃ result, note = .replied result) ∨ ∃ session, note = .showed session) :
    a.Along Account.Genuine more ∧ world.Tends (more.foldl Account.note a) := by
  induction more generalizing a with
  | nil => exact ⟨trivial, h⟩
  | cons note more ih =>
      obtain ⟨hnote, hmore⟩ := List.forall_mem_cons.mp hmore
      have hnext : a.Genuine note ∧ world.Tends (a.note note) := by
        rcases hnote with ⟨result, rfl⟩ | ⟨session, rfl⟩
        · exact ⟨trivial, h.alike ⟨rfl, rfl, rfl, rfl, rfl, rfl, rfl, rfl, rfl, rfl, rfl, rfl⟩⟩
        · exact ⟨trivial, h.alike ⟨rfl, rfl, rfl, rfl, rfl, rfl, rfl, rfl, rfl, rfl, rfl, rfl⟩⟩
      obtain ⟨hgenuine, htends⟩ := ih hnext.2 hmore
      exact ⟨⟨hnext.1, hgenuine⟩, htends⟩

end Tends
end World

namespace System

/-- The session and its surroundings are as the log tells. -/
structure Follows (config : Config) (url : String) (log : List Note) (system : System σ) :
    Prop where
  orderly : Orderly config url log
  genuine : (Account.new config url).Along Account.Genuine log
  suits : system.stage.Suits (account config url log)
  tends : system.world.Tends (account config url log)

variable {config : Config} {url : String} {log : List Note} {system system' : System σ}

theorem Follows.step {label : Label} (h : system.Follows config url log)
    (hstep : system.step label = some system') :
    system'.Follows config url (log ++ system.notes label) := by
  have hsound := h.suits.sound
  suffices ((account config url log).Allows (system.notes label) ∧
      (account config url log).Along Account.Genuine (system.notes label)) ∧
      system'.stage.Suits ((system.notes label).foldl Account.note (account config url log)) ∧
        system'.world.Tends ((system.notes label).foldl Account.note (account config url log)) by
    obtain ⟨⟨hallows, hgenuine⟩, hsuits, htends⟩ := this
    refine ⟨Orderly.append.mpr ⟨h.orderly, hallows⟩,
      Account.along_append.mpr ⟨h.genuine, hgenuine⟩, ?_, ?_⟩
    · rw [account_append]
      exact hsuits
    · rw [account_append]
      exact htends
  rcases system.step_cases hstep with ⟨note, more, hnotes, hgoes, hfollows⟩ |
    ⟨worker, lane, lane', storage, rfl, hlane, hlaneStep, hnotes, rfl⟩ | ⟨hnotes, hactivity, hrest⟩
  · rw [hnotes]
    obtain ⟨hallows, hsuits⟩ := hgoes.suits h.suits fun worker heard hhead hlive => by
      cases hhead
      exact h.tends.expects hsound hlive hfollows
    obtain ⟨hgenuine, htends⟩ := h.tends.follows hsound hallows.1 hfollows
    obtain ⟨hgenuine', htends'⟩ := htends.shows hgoes.rest_shows
    exact ⟨⟨hallows, hgenuine, hgenuine'⟩, hsuits, htends'⟩
  · rw [hnotes]
    exact h.tends.work h.suits hlane hlaneStep
  · rw [hnotes]
    have hstage : system'.stage = system.stage := congrArg Activity.stage hactivity
    refine ⟨⟨trivial, trivial⟩, hstage ▸ h.suits, ?_⟩
    rcases hrest with ⟨worker, -, hworld⟩ | ⟨milliseconds, -, hworld⟩ | ⟨cause, -, hworld⟩
    · rw [hworld]
      exact h.tends.crash hsound worker
    · rw [hworld]
      exact h.tends.elapse (system.world.clock + milliseconds) system.world.jam
    · rw [hworld]
      exact h.tends.elapse system.world.clock cause

/-- Every run of a session that starts without workers is as its log tells. -/
theorem Run.follows {world : World σ} (hnew : world.lanes = []) (hshares : world.Shares)
    (h : Run (.new world config) log system) : system.Follows config world.buffer.url log := by
  induction h with
  | start =>
      refine ⟨trivial, trivial, ⟨Session.new_clear config _, rfl, rfl⟩, ?_⟩
      exact ⟨⟨hshares, rfl, by simp [System.new, hnew, Account.new], by simp [System.new, hnew],
        by simp [System.new, hnew], (by rintro _ ⟨⟩), by simp [System.new, hnew]⟩,
        (by rintro _ ⟨⟩), (by rintro _ ⟨⟩)⟩
  | step h hstep ih => exact ih.step hstep

end System
end ScriptConsole
