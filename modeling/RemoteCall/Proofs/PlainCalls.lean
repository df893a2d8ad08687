import RemoteCall.Proofs.DefaultAdapter
import RemoteCall.Proofs.LazyInvocation
import RemoteCall.Proofs.Operations

/-!
Calls of methods that are left to the default adapter.

If no adapter factory of the user has an offer for the methods of a client (`Engine.Served`), each
fresh call is handed over as it is, or under one wrapper if the method hops
(`MethodRecord.callOf`, `run_callMethod_of_callsOf`). Nothing else comes of it: the engine `Idles`
while methods are looked up and carried out and calls are run on the spot or copied, and what jobs
and callbacks would do has no part in it (`Served.carryOut_unhooked`).
-/

namespace RemoteCall

variable {σ κ : Type}

namespace MethodRecord

variable {r : MethodRecord σ}

/-- What the caller of the method gets for a fresh call. -/
def callOf (r : MethodRecord σ) (executor : Option Executor) (index : Nat) : CallRef :=
  (if r.hops then executor else none).elim (.made index) fun e => .dispatching e (.made index)

theorem callOf_of_suspend (suspend : r.isSuspend = true) (executor : Option Executor)
    (index : Nat) : r.callOf executor index = .made index := by
  simp [callOf, hops, suspend]

theorem callOf_of_tagged (tagged : r.metadata.contains Metadata.skipCallbackExecutor = true)
    (executor : Option Executor) (index : Nat) : r.callOf executor index = .made index := by
  simp [callOf, hops, tagged]

theorem callOf_of_untagged (direct : r.isSuspend = false)
    (untagged : r.metadata.contains Metadata.skipCallbackExecutor = false) (executor : Executor)
    (index : Nat) :
    r.callOf (some executor) index = .dispatching executor (.made index) := by
  simp [callOf, hops, direct, untagged]

end MethodRecord

namespace Engine

variable {hooks : Hooks σ κ} {h : ClientHandle σ κ} {id : MethodId} {args : Arguments}
  {e e' e'' : Engine σ κ}

/-! ### Giving nobody anything to do -/

/-- No executor was handed a job and the runtime no task, and the methods of the client are declared
as before. -/
structure Quiet (h : ClientHandle σ κ) (e e' : Engine σ κ) : Prop where
  manual : e'.manual = e.manual
  custom : e'.custom = e.custom
  serial : e'.serial = e.serial
  tasks : e'.tasks = e.tasks
  entry : ∀ id, (e'.registryOf h).entry id = (e.registryOf h).entry id
  later : Registry.Later h.client.Made (e.registryOf h) (e'.registryOf h)

theorem Quiet.refl (h : ClientHandle σ κ) (e : Engine σ κ) : Quiet h e e :=
  ⟨rfl, rfl, rfl, rfl, fun _ => rfl, .refl⟩

theorem Quiet.trans (first : Quiet h e e') (rest : Quiet h e' e'') : Quiet h e e'' where
  manual := rest.manual.trans first.manual
  custom := rest.custom.trans first.custom
  serial := rest.serial.trans first.serial
  tasks := rest.tasks.trans first.tasks
  entry id := (rest.entry id).trans (first.entry id)
  later := first.later.trans rest.later

/-- Besides, no future was added that is to be polled. -/
structure Idles (h : ClientHandle σ κ) (e e' : Engine σ κ) : Prop extends Quiet h e e' where
  planned : ∀ {h' id args envelope}, .planned h' id args envelope ∈ e'.futures →
    .planned h' id args envelope ∈ e.futures

theorem Idles.refl (h : ClientHandle σ κ) (e : Engine σ κ) : Idles h e e := ⟨.refl h e, id⟩

theorem Idles.trans (first : Idles h e e') (rest : Idles h e' e'') : Idles h e e'' :=
  ⟨first.toQuiet.trans rest.toQuiet, fun mem => first.planned (rest.planned mem)⟩

/-- The plug-ins and the calls may change. -/
theorem idles_with (h : ClientHandle σ κ) (e : Engine σ κ) (plugins : σ)
    (calls : List (MadeCall σ κ)) : Idles h e { e with plugins, calls } :=
  ⟨⟨rfl, rfl, rfl, rfl, fun _ => rfl, .refl⟩, id⟩

/-- A future that was polled is not planned any more. -/
theorem idles_set {stage : FutureStage σ κ} (h : ClientHandle σ κ) (e : Engine σ κ) (future : Nat)
    (begun : Begun stage) : Idles h e { e with futures := e.futures.set future stage } where
  toQuiet := ⟨rfl, rfl, rfl, rfl, fun _ => rfl, .refl⟩
  planned {h' id args envelope} mem := by
    rcases List.mem_or_eq_of_mem_set mem with old | new
    · exact old
    · exact absurd new.symm (begun h' id args envelope)

/-- A registry that looks a method up declares what it has declared before. -/
theorem entry_resolve (h : ClientHandle σ κ) (id other : MethodId) (e : Engine σ κ) :
    (((resolve h id).run e).2.registryOf h).entry other = (e.registryOf h).entry other := by
  rcases (e.registryOf h).lookup_cases id with unknown | ⟨plan, planned⟩ | ⟨entry, pending⟩
  · rw [run_resolve_of_unknown unknown]
  · rw [run_resolve_of_get? planned]
  · obtain ⟨slot, found, ran⟩ := run_resolve_of_pending pending
    rw [ran]
    rcases (makePlan h id entry).run e.plugins with ⟨error | plan, t⟩
    · rfl
    · simp only [registryOf_set (opened_of_slotOf? found), Registry.entry_commit]

theorem idles_resolve (h : ClientHandle σ κ) (id : MethodId) (e : Engine σ κ) :
    Idles h e ((resolve h id).run e).2 where
  manual := rfl
  custom := rfl
  serial := rfl
  tasks := rfl
  entry other := entry_resolve h id other e
  later := later_resolve rfl
  planned mem := mem

theorem idles_executeCall (h : ClientHandle σ κ) (call : CallRef) (e : Engine σ κ) :
    Idles h e ((executeCall call).run e).2 := by
  unfold executeCall
  rw [run_get_bind]
  cases e.calls[call.innermost]? with
  | none => exact .refl h e
  | some made =>
      cases made with
      | scripted maker c => exact idles_with h e _ _
      | wired c => exact idles_with h e _ _
      | lossy request => exact .refl h e

theorem idles_cloneCall (h : ClientHandle σ κ) (call : CallRef) (e : Engine σ κ) :
    Idles h e ((cloneCall call).run e).2 := by
  induction call with
  | made index =>
      rw [cloneCall, run_get_bind]
      cases e.calls[index]? with
      | none => exact .refl h e
      | some made => exact idles_with h e _ _
  | dispatching executor delegate ih => exact ih

/-! ### Carrying methods out -/

/-- An adapter that hands calls over does nothing else. -/
theorem run_callMethod_of_callsOf {plan : Plan σ κ} {executor : Option Executor}
    {r : MethodRecord σ} {payload : Shape}
    (plain : plan.callAdapter = Client.callsOf executor r payload) (e : Engine σ κ) :
    (callMethod hooks plan args).run e =
      match (plan.request plan.baseUrl args).run e.plugins with
      | (.error fault, s) => (.error (.request plan.method fault), { e with plugins := s })
      | (.ok request, s) =>
        (.ok (.call (r.callOf executor e.calls.length)), e.withCall plan request s) := by
  rw [run_callMethod]
  rcases (plan.request plan.baseUrl args).run e.plugins with ⟨fault | request, s⟩
  · rfl
  · simp only [run_adaptCall, plain]
    rfl

/-- The plans of the client are of its own making, and no adapter factory of the user has an offer
for any of its methods. -/
structure Served (h : ClientHandle σ κ) (e : Engine σ κ) : Prop where
  complete : h.client.Complete
  sound : Registry.Sound h.client.Made (e.registryOf h)
  unclaimed : ∀ {id entry}, (e.registryOf h).entry id = .ok entry → h.client.Unclaimed
    (.callAdapter (adapterShape entry.record.convention) (adapterTags entry.record))

theorem Served.quiet (served : Served h e) (quiet : Quiet h e e') : Served h e' where
  complete := served.complete
  sound := served.sound.later quiet.later
  unclaimed there := served.unclaimed ((quiet.entry _).symm.trans there)

/-- A plan that is found hands calls over. -/
theorem Served.plain (served : Served h e) {plan : Plan σ κ} {e₁ : Engine σ κ}
    (resolved : (resolve h id).run e = (.ok plan, e₁)) :
    ∃ entry, (e.registryOf h).entry id = .ok entry ∧
      plan.callAdapter = Client.callsOf h.client.executor entry.record plan.responseType := by
  obtain ⟨entry, there, made⟩ := made_of_resolve served.sound resolved
  exact ⟨entry, there, made.callAdapter_eq served.complete (served.unclaimed there)⟩

/-- What jobs and callbacks would do has no part in carrying a method out. -/
theorem Served.carryOut_unhooked (served : Served h e) (hooks hooks' : Hooks σ κ)
    (id : MethodId) (args : Arguments) :
    (carryOut hooks h id args).run e = (carryOut hooks' h id args).run e := by
  rw [run_carryOut, run_carryOut]
  rcases resolved : (resolve h id).run e with ⟨error | plan, e₁⟩
  · rfl
  · obtain ⟨entry, _, plain⟩ := served.plain resolved
    simp only [run_callMethod_of_callsOf plain]

/-- What is true each time a method is carried out. -/
structure HandsOver (h : ClientHandle σ κ) (id : MethodId) (e : Engine σ κ)
    (result : Except Error (Plan σ κ × Payload)) (e' : Engine σ κ) : Prop where
  idles : Idles h e e'
  /-- The caller gets the fresh call that the declaration asks for, or an error. -/
  call : ∀ {plan payload}, result = .ok (plan, payload) → ∃ entry index,
    (e.registryOf h).entry id = .ok entry ∧
      payload = .call (entry.record.callOf h.client.executor index)

theorem Served.carryOut (served : Served h e) (hooks : Hooks σ κ) (id : MethodId)
    (args : Arguments) :
    HandsOver h id e ((carryOut hooks h id args).run e).1 ((carryOut hooks h id args).run e).2 := by
  have looked := idles_resolve h id e
  rw [run_carryOut]
  rcases resolved : (resolve h id).run e with ⟨error | plan, e₁⟩
  · rw [resolved] at looked
    exact ⟨looked, nofun⟩
  · rw [resolved] at looked
    obtain ⟨entry, there, plain⟩ := served.plain resolved
    simp only [run_callMethod_of_callsOf plain]
    rcases (plan.request plan.baseUrl args).run e₁.plugins with ⟨fault | request, s⟩
    · exact ⟨looked.trans (idles_with h e₁ _ _), nofun⟩
    · refine ⟨looked.trans (idles_with h e₁ _ _), ?_⟩
      intro plan' payload same
      cases same
      exact ⟨entry, _, there, rfl⟩

/-- A future that is started carries its method out, and keeps the call if there is one. -/
theorem run_startPlanned_of_carryOut (hooks : Hooks σ κ) (future : Nat) (h : ClientHandle σ κ)
    (id : MethodId) (args : Arguments) (envelope : Bool) (e : Engine σ κ) :
    (startPlanned hooks future h id args envelope).run e =
      match (carryOut hooks h id args).run e with
      | (.error error, e') => (.error error, e')
      | (.ok (plan, payload), e') =>
        match payload.call? with
        | none => (.error (notACall plan.method), e')
        | some call => (.ok (call, purposeOf plan envelope), { e' with
            futures := e'.futures.set future (.bridged h call (purposeOf plan envelope) {}) }) := by
  rw [run_startPlanned, run_carryOut]
  rcases (resolve h id).run e with ⟨error | plan, e₁⟩
  · rfl
  · simp only [run_callToAwait]
    rcases (callMethod hooks plan args).run e₁ with ⟨error | payload, e'⟩
    · rfl
    · simp only [Except.map]
      cases payload.call? with
      | none => rfl
      | some call => rfl

theorem Served.startPlanned_unhooked (served : Served h e) (hooks hooks' : Hooks σ κ)
    (future : Nat) (id : MethodId) (args : Arguments) (envelope : Bool) :
    (startPlanned hooks future h id args envelope).run e =
      (startPlanned hooks' future h id args envelope).run e := by
  rw [run_startPlanned_of_carryOut, run_startPlanned_of_carryOut,
    served.carryOut_unhooked hooks hooks']

theorem run_invoke_of_unknown {error : Error} (unknown : (e.registryOf h).entry id = .error error) :
    (invoke hooks h id args).run e = (.error error, e) := by
  rw [invoke, run_get_bind]
  simp only [unknown]
  rfl

theorem Served.invoke_unhooked (served : Served h e) (hooks hooks' : Hooks σ κ) (id : MethodId)
    (args : Arguments) : (invoke hooks h id args).run e = (invoke hooks' h id args).run e := by
  cases there : (e.registryOf h).entry id with
  | error error => rw [run_invoke_of_unknown there, run_invoke_of_unknown there]
  | ok entry =>
      cases suspend : entry.record.isSuspend with
      | true => rw [run_invoke_of_suspend there suspend, run_invoke_of_suspend there suspend]
      | false =>
          rw [run_invoke_of_direct there suspend, run_invoke_of_direct there suspend,
            served.carryOut_unhooked hooks hooks']

end Engine

end RemoteCall
