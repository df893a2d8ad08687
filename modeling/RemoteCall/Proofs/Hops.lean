import RemoteCall.Engine.Traffic
import RemoteCall.Proofs.PlainCalls
import RemoteCall.Proofs.SeenTags
import RemoteCall.Proofs.SingleRelays

/-!
Whose callbacks hop to the callback executor.

A client with a callback executor, whose methods no adapter factory of the user has an offer for,
leaves to the executor the callbacks on calls of direct methods without the tag that asks to keep
off it, and nothing else. `Traffic.Sound` is what holds of its calls at each moment, and
`hops_as_declared` what follows from it.
-/

namespace RemoteCall

variable {σ κ : Type}

namespace Traffic

variable {hooks : Hooks σ κ} {h : ClientHandle σ κ} {start : Engine σ κ}
  {t t' : Traffic σ κ}

/-- What holds of the calls of a client at each moment. -/
structure Sound (h : ClientHandle σ κ) (start : Engine σ κ) (t : Traffic σ κ) : Prop where
  quiet : Engine.Quiet h start t.engine
  /-- The futures that were not polled yet are those of methods of the client that are awaited. -/
  planned : ∀ {h' id args envelope}, .planned h' id args envelope ∈ t.engine.futures →
    h' = h ∧ ∃ entry, (start.registryOf h).entry id = .ok entry ∧ entry.record.isSuspend = true
  orderly : t.exchange.Orderly
  prompt : t.exchange.Prompt
  given : ∀ {id payload}, (id, payload) ∈ t.given → ∃ entry index,
    (start.registryOf h).entry id = .ok entry ∧ entry.record.isSuspend = false ∧
      payload = .call (entry.record.callOf h.client.executor index)
  awaited : ∀ {id number}, (id, number) ∈ t.awaited → ∃ entry op index,
    (start.registryOf h).entry id = .ok entry ∧ entry.record.isSuspend = true ∧
      t.exchange.ops[number]? = some op ∧ op.call = .made index

/-- At the beginning nothing is awaited. -/
theorem sound_start {e : Engine σ κ} (unused : ∀ future, e.Started future) :
    Sound h e { engine := e } where
  quiet := .refl h e
  planned mem := by
    obtain ⟨future, there⟩ := List.getElem?_of_mem mem
    exact absurd there (unused future _ _ _ _)
  orderly := ⟨nofun, fun _ _ => rfl⟩
  prompt _ := ⟨fun _ => ⟨rfl, rfl⟩, fun _ => rfl⟩
  given := nofun
  awaited := nofun

theorem Sound.idle (sound : Sound h start t) {e : Engine σ κ} (idles : Engine.Idles h t.engine e) :
    Sound h start { t with engine := e } :=
  { sound with
    quiet := sound.quiet.trans idles.toQuiet
    planned := fun mem => sound.planned (idles.planned mem) }

theorem Sound.carry (sound : Sound h start t) {label : ExchangeStep} {x : Exchange}
    (taken : t.exchange.step? label = some x) : Sound h start { t with exchange := x } := by
  refine { sound with
    orderly := sound.orderly.step taken
    prompt := sound.prompt.step sound.orderly taken
    awaited := ?_ }
  intro id number mem
  obtain ⟨entry, op, index, there, suspend, started, bare⟩ := sound.awaited mem
  obtain ⟨op', now, same⟩ := Exchange.op_of_step? taken started
  exact ⟨entry, op', index, there, suspend, now, same.trans bare⟩

/-- A direct method gives the call that its declaration asks for. -/
theorem Sound.give (sound : Sound h start t) {id : MethodId} {entry : MethodEntry σ}
    (there : (start.registryOf h).entry id = .ok entry) (direct : entry.record.isSuspend = false)
    (index : Nat) :
    Sound h start { t with
      given := (id, .call (entry.record.callOf h.client.executor index)) :: t.given } := by
  refine { sound with given := ?_ }
  intro id' payload mem
  rcases List.mem_cons.mp mem with same | earlier
  · cases same
    exact ⟨entry, index, there, direct, rfl⟩
  · exact sound.given earlier

/-- A method that is awaited adds a future. -/
theorem Sound.plan (sound : Sound h start t) {id : MethodId} {entry : MethodEntry σ}
    (there : (start.registryOf h).entry id = .ok entry) (suspend : entry.record.isSuspend = true)
    (args : Arguments) (envelope : Bool) :
    Sound h start { t with engine := { t.engine with
      futures := t.engine.futures ++ [.planned h id args envelope] } } := by
  refine { sound with
    quiet := sound.quiet.trans ⟨rfl, rfl, rfl, rfl, fun _ => rfl, .refl⟩
    planned := ?_ }
  intro h' id' args' envelope' mem
  rcases List.mem_append.mp mem with old | new
  · exact sound.planned old
  · cases List.mem_singleton.mp new
    exact ⟨rfl, entry, there, suspend⟩

theorem Sound.invoke (served : Engine.Served h start) (sound : Sound h start t)
    (hooks : Hooks σ κ) (id : MethodId) (args : Arguments) :
    Sound h start (t.invoked id ((Engine.invoke hooks h id args).run t.engine).1
      ((Engine.invoke hooks h id args).run t.engine).2) := by
  cases there : (t.engine.registryOf h).entry id with
  | error error =>
      rw [Engine.run_invoke_of_unknown there]
      exact sound
  | ok entry =>
      have declared := (sound.quiet.entry id).symm.trans there
      cases suspend : entry.record.isSuspend with
      | true =>
          rw [Engine.run_invoke_of_suspend there suspend]
          cases entry.record.awaitsEnvelope with
          | true => exact sound.plan declared suspend args true
          | false => exact sound.plan declared suspend args false
      | false =>
          rw [Engine.run_invoke_of_direct there suspend]
          have carried := (served.quiet sound.quiet).carryOut hooks id args
          generalize (Engine.carryOut hooks h id args).run t.engine = ran at carried ⊢
          obtain ⟨error | ⟨plan, payload⟩, e⟩ := ran
          · exact sound.idle carried.idles
          · obtain ⟨entry', index, there', rfl⟩ := carried.call rfl
            cases there.symm.trans there'
            exact (sound.idle carried.idles).give declared suspend index

/-- The call of a method that is awaited is not wrapped. -/
theorem Sound.wait (sound : Sound h start t) {id : MethodId} {entry : MethodEntry σ}
    (there : (start.registryOf h).entry id = .ok entry) (suspend : entry.record.isSuspend = true)
    {number index : Nat} {op : Enqueued} (started : t.exchange.ops[number]? = some op)
    (bare : op.call = .made index) :
    Sound h start { t with awaited := (id, number) :: t.awaited } := by
  refine { sound with awaited := ?_ }
  intro id' number' mem
  rcases List.mem_cons.mp mem with same | earlier
  · cases same
    exact ⟨entry, op, index, there, suspend, started, bare⟩
  · exact sound.awaited earlier

theorem Sound.await (served : Engine.Served h start) (sound : Sound h start t) {future : Nat}
    (taken : t.step? hooks h (.await future) = some t') : Sound h start t' := by
  dsimp only [step?] at taken
  split at taken
  · next h' id args envelope there =>
    obtain ⟨rfl, entry, declared, suspend⟩ := sound.planned (List.mem_of_getElem? there)
    have carried := (served.quiet sound.quiet).carryOut hooks id args
    rw [Engine.run_startPlanned_of_carryOut] at taken
    generalize (Engine.carryOut hooks h' id args).run t.engine = ran at carried taken
    obtain ⟨error | ⟨plan, payload⟩, e⟩ := ran
    · cases taken
      exact sound.idle (carried.idles.trans (Engine.idles_set h' e future Engine.begun_ended))
    · obtain ⟨entry', index, there', rfl⟩ := carried.call rfl
      cases declared.symm.trans ((sound.quiet.entry id).symm.trans there')
      let call := entry.record.callOf h'.client.executor index
      have bare : call = .made index := MethodRecord.callOf_of_suspend suspend _ index
      have enqueued : t.exchange.step? (.enqueue call) = some _ := rfl
      have begun := Engine.begun_bridged (some h') call (Engine.purposeOf plan envelope) {}
      have idle := sound.idle (carried.idles.trans (Engine.idles_set h' e future begun))
      cases taken
      exact (idle.carry enqueued).wait declared suspend List.getElem?_concat_length bare
  · cases taken

/-- Each step keeps what holds of the calls. -/
theorem Sound.step (served : Engine.Served h start) (sound : Sound h start t)
    {label : TrafficStep σ κ} (taken : t.step? hooks h label = some t') : Sound h start t' := by
  cases label with
  | resolve id =>
      cases taken
      exact sound.idle (Engine.idles_resolve h id t.engine)
  | invoke id args =>
      cases taken
      exact sound.invoke served hooks id args
  | await future => exact sound.await served taken
  | execute call =>
      cases taken
      exact sound.idle (Engine.idles_executeCall h call t.engine)
  | clone call =>
      cases taken
      exact sound.idle (Engine.idles_cloneCall h call t.engine)
  | carry label =>
      obtain ⟨x, moved, rfl⟩ := Option.map_eq_some_iff.mp taken
      exact sound.carry moved
  | change plugins calls =>
      cases taken
      exact sound.idle (Engine.idles_with h t.engine plugins calls)

/-- What jobs and callbacks would do has no part in any step. -/
theorem Sound.unhooked (served : Engine.Served h start) (sound : Sound h start t)
    (hooks hooks' : Hooks σ κ) (label : TrafficStep σ κ) :
    t.step? hooks h label = t.step? hooks' h label := by
  have served' := served.quiet sound.quiet
  cases label with
  | invoke id args =>
      dsimp only [step?]
      rw [served'.invoke_unhooked hooks hooks' id args]
  | await future =>
      dsimp only [step?]
      split
      · next h' id args envelope there =>
        obtain ⟨rfl, _⟩ := sound.planned (List.mem_of_getElem? there)
        rw [served'.startPlanned_unhooked hooks hooks' future id args envelope]
      · rfl
  | resolve id => rfl
  | execute call => rfl
  | clone call => rfl
  | carry label => rfl
  | change plugins calls => rfl

/-- What is true of the calls of a client with a callback executor after any run. -/
structure HopsAsDeclared (hooks : Hooks σ κ) (h : ClientHandle σ κ) (executor : Executor)
    (start : Engine σ κ) (now : Traffic σ κ) : Prop where
  /-- Only callbacks that are called give executors and the runtime anything to do. The declarations
  are still the same. -/
  quiet : Engine.Quiet h start now.engine
  /-- No step has a job run on the spot: it does not matter what jobs and callbacks would do. -/
  unhooked : ∀ hooks' label, now.step? hooks' h label = now.step? hooks h label
  /-- Whoever awaits a method hears the outcome when and where its call completes. -/
  awaited : ∀ {id number}, (id, number) ∈ now.awaited → ∃ entry op index,
    (start.registryOf h).entry id = .ok entry ∧ entry.record.isSuspend = true ∧
      now.exchange.ops[number]? = some op ∧ op.call = .made index ∧
      now.exchange.TellsOnSpot number (.made index)
  /-- The calls of direct methods hop once each time, and so do their copies; but they do not hop if
  the declared tags ask to keep off the executor. -/
  given : ∀ {id payload}, (id, payload) ∈ now.given → ∃ entry index,
    (start.registryOf h).entry id = .ok entry ∧ entry.record.isSuspend = false ∧
      if entry.record.metadata.contains Metadata.skipCallbackExecutor = true then
        payload = .call (.made index) ∧ ∀ {number op copy},
          now.exchange.ops[number]? = some op → op.call = .made copy →
            now.exchange.TellsOnSpot number (.made copy)
      else
        payload = .call (.dispatching executor (.made index)) ∧ ∀ {number op copy},
          now.exchange.ops[number]? = some op → op.call = .dispatching executor (.made copy) →
            now.exchange.HopsOnce number executor
  /-- To run a wrapped call on the spot is to run its delegate, which hands nothing over. -/
  execute : ∀ call (e : Engine σ κ),
    (Engine.executeCall (.dispatching executor call)).run e = (Engine.executeCall call).run e ∧
      Engine.Idles h e ((Engine.executeCall call).run e).2
  /-- The tag that keeps awaited methods off the executor is there for adapter factories only. -/
  tags : ∀ {id entry}, (now.engine.registryOf h).entry id = .ok entry → h.client.ShowsTags entry

/-- Methods are invoked and awaited, calls are enqueued, copied, run and canceled, and jobs are run
or dropped in any order: only callbacks on calls of direct methods hop, each once, and only if the
tags do not keep them off the executor. -/
theorem hops_as_declared {settings : ClientSettings σ κ} {h : ClientHandle σ κ}
    {executor : Executor} {start : Engine σ κ} (hooks : Hooks σ κ)
    (built : settings.build = .ok h.client) (has : settings.executor = some executor)
    (registry : Registry.Later h.client.Made .empty (start.registryOf h))
    (unclaimed : ∀ {id entry}, (start.registryOf h).entry id = .ok entry → h.client.Unclaimed
      (.callAdapter (adapterShape entry.record.convention) (adapterTags entry.record)))
    (unused : ∀ future, start.Started future)
    {history : List (Traffic σ κ × TrafficStep σ κ)} {now : Traffic σ κ}
    (run : Run (step? hooks h) { engine := start } history now) :
    HopsAsDeclared hooks h executor start now := by
  have makes := ClientSettings.build_eq_ok_iff.mp built
  have served : Engine.Served h start :=
    ⟨makes.complete, Registry.Sound.empty.later registry, unclaimed⟩
  have client : h.client.executor = some executor := makes.executor.symm.trans has
  have sound : Sound h start now :=
    run.keeps (fun taken sound => sound.step served taken) (sound_start unused)
  constructor
  · exact sound.quiet
  · intro hooks' label
    exact sound.unhooked served hooks' hooks label
  · intro id number mem
    obtain ⟨entry, op, index, there, suspend, started, bare⟩ := sound.awaited mem
    have told := sound.orderly.tells_on_spot sound.prompt started bare
    exact ⟨entry, op, index, there, suspend, started, bare, told⟩
  · intro id payload mem
    obtain ⟨entry, index, there, direct, rfl⟩ := sound.given mem
    refine ⟨entry, index, there, direct, ?_⟩
    rw [client]
    cases tagged : entry.record.metadata.contains Metadata.skipCallbackExecutor with
    | true =>
        rw [if_pos rfl, MethodRecord.callOf_of_tagged tagged]
        refine ⟨rfl, ?_⟩
        intro number op copy started bare
        exact sound.orderly.tells_on_spot sound.prompt started bare
    | false =>
        rw [if_neg Bool.false_ne_true, MethodRecord.callOf_of_untagged direct tagged]
        refine ⟨rfl, ?_⟩
        intro number op copy started wrapped
        exact sound.orderly.hops_once sound.prompt started wrapped
  · intro call e
    exact ⟨rfl, Engine.idles_executeCall h call e⟩
  · intro id entry _
    exact h.client.showsTags entry

/-- Settings with a callback executor, and with an adapter factory that has no offers. -/
def manualSettings : ClientSettings Unit Unit where
  baseUrl := some "http://localhost/"
  calls := some .lossy
  adapters := Chain.empty.push "Text" (textConverters 1 .unit)
  executor := some .manual

/-- Their client. -/
def manualClient : ClientHandle Unit Unit where
  client := { localClient manualSettings.adapters false with
    adapters := withDefault manualSettings.adapters (some .manual)
    executor := some .manual }
  registry := 0

/-- One method that is awaited, one that is not, and one that keeps off the executor. -/
def threeMethods : List (MethodRecord Unit) :=
  [emptyRequestMethod "wait" (.suspend .unit), emptyRequestMethod "call" (.direct (.call .unit)),
    { emptyRequestMethod "skip" (.direct (.call .unit)) with
      metadata := Metadata.empty.insert Metadata.skipCallbackExecutor }]

/-- The engine of the client, with these methods. -/
def manualEngine : Engine Unit Unit :=
  ((Engine.register manualClient ⟨"Api", threeMethods⟩).run Engine.newEngine).2

/-- A successful outcome. -/
def success : Outcome := .ok ⟨200, "", [], none, none⟩

/-- Each method is called once, all calls complete, and one job is run. -/
def callEach : List (TrafficStep Unit Unit) :=
  [.invoke ⟨1⟩ [], .await 0, .invoke ⟨2⟩ [], .invoke ⟨3⟩ [],
    .carry (.enqueue (.dispatching .manual (.made 1))), .carry (.enqueue (.made 2)),
    .carry (.complete 1 success), .carry (.complete 2 success), .carry (.complete 0 success),
    .carry (.run 1)]

/-- The run of `callEach`: there is one job, and only one listener hears inside it. -/
theorem hops_as_declared_manual : ∃ history now,
    Run (step? Engine.idleHooks manualClient) { engine := manualEngine } history now ∧
      now.exchange.handed = [(1, .manual)] ∧
      now.exchange.heard.map (fun h => (h.1, h.2.within)) =
        [(1, some .manual), (0, none), (2, none)] ∧
      HopsAsDeclared Engine.idleHooks manualClient .manual manualEngine now := by
  have ends : (callEach.foldlM (step? Engine.idleHooks manualClient)
      { engine := manualEngine }).map
        (fun t => (t.exchange.handed, t.exchange.heard.map fun h => (h.1, h.2.within))) =
      some ([(1, .manual)], [(1, some .manual), (0, none), (2, none)]) := by decide +kernel
  obtain ⟨now, taken, same⟩ := Option.map_eq_some_iff.mp ends
  obtain ⟨handed, heard⟩ : _ ∧ _ := by simpa only [Prod.mk.injEq] using same
  obtain ⟨history, run⟩ := Run.of_foldlM taken
  have registered : Registry.Later manualClient.client.Made .empty
      (manualEngine.registryOf manualClient) :=
    Engine.later_register (e := Engine.newEngine) Nat.zero_lt_one .empty (by decide)
  have built : manualSettings.build = .ok manualClient.client := rfl
  have unclaimed (shape : Shape) (tags : Metadata) :
      manualClient.client.Unclaimed (.callAdapter shape tags) := by
    intro e mem depth place s t offer
    cases List.mem_singleton.mp mem
    nofun
  have unused (future : Nat) : manualEngine.Started future := nofun
  exact ⟨history, now, run, handed, heard, hops_as_declared Engine.idleHooks built rfl registered
    (fun _ => unclaimed _ _) unused run⟩

end Traffic

end RemoteCall
