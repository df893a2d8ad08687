import RemoteCall.Proofs.PlainCalls

/-!
Helpers that do not fit the method.

A helper learns from the invocation what kind of method it has. The invocation of a method that is
awaited only adds a future; a helper that does not fit gives it up and reports the mistake, and
nothing else has changed (`run_call_of_suspend`, `run_suspendValue_of_envelope`,
`run_suspendEnvelope_of_value`). A direct method is carried out by its invocation, so a helper that
waits reports the mistake after all that has happened, and only if the method could be carried out
(`run_suspendValue_of_direct`, `run_suspendEnvelope_of_direct`).
-/

namespace RemoteCall

variable {σ κ : Type}

theorem MethodRecord.isSuspend_of_awaitsEnvelope {r : MethodRecord σ}
    (envelope : r.awaitsEnvelope = true) : r.isSuspend = true := by
  rw [awaitsEnvelope] at envelope
  rw [isSuspend]
  cases declared : r.convention with
  | suspend shape => rfl
  | direct shape =>
      rw [declared] at envelope
      cases envelope

namespace Engine

variable {hooks : Hooks σ κ} {h : ClientHandle σ κ} {id : MethodId} {args : Arguments}
  {e : Engine σ κ} {entry : MethodEntry σ} {α β : Type}

/-- The error of a helper that does not fit the method. -/
def misused (entry : MethodEntry σ) (reason : String) : Error :=
  .configuration (some entry.qualified) ("Method " ++ reason ++ ".")

/-- The engine after a future was added and given up. Nothing else has changed. -/
def withSpent (e : Engine σ κ) : Engine σ κ := { e with futures := e.futures ++ [.ended] }

/-- What a helper that waits reports of a direct method that was carried out. -/
def misusedDirect (entry : MethodEntry σ) : Except Error (Plan σ κ × Payload) → Error
  | .error error => error
  | .ok _ => misused entry "is a direct method"

theorem run_wrongConvention (there : (e.registryOf h).entry id = .ok entry) (reason : String) :
    (wrongConvention h id reason).run e = (misused entry reason, e) := by
  rw [wrongConvention, run_get_bind, there]
  rfl

/-- A helper that does not fit gives the new future up and reports the mistake. -/
theorem run_refuse (there : (e.registryOf h).entry id = .ok entry) (stage : FutureStage σ κ)
    (reason : String) (report : Error → α) :
    (do
      forget e.futures.length
      return report (← wrongConvention h id reason) : EngineM σ κ α).run
        { e with futures := e.futures ++ [stage] } =
      (report (misused entry reason), e.withSpent) := by
  have spent : (e.futures ++ [stage]).set e.futures.length .ended = e.futures ++ [.ended] := by
    rw [List.set_append_right _ _ (Nat.le_refl _), Nat.sub_self, List.set_cons_zero]
  have forgotten : (forget e.futures.length).run { e with futures := e.futures ++ [stage] } =
      ((), e.withSpent) := by
    rw [withSpent, ← spent]
    rfl
  have stays : (e.withSpent.registryOf h).entry id = .ok entry := there
  rw [run_bind_of forgotten, run_bind_of (run_wrongConvention stays reason)]
  rfl

/-! ### Code of the runtime -/

/-- The engine as the code of its runtime finds it. -/
def entered (e : Engine σ κ) : Engine σ κ :=
  if e.runtime = .running then { e with context := .currentThread } else e

/-- The engine after the code of the runtime has left `e'`. -/
def leftWith (e e' : Engine σ κ) : Engine σ κ :=
  if e.runtime = .running then { e' with context := e.context } else e'

theorem run_onRuntime (f : EngineM σ κ α) (e : Engine σ κ) :
    (onRuntime f).run e = ((f.run e.entered).1, e.leftWith (f.run e.entered).2) := by
  rw [onRuntime, run_get_bind, entered]
  unfold leftWith
  split
  · rfl
  · rfl

theorem entry_entered (e : Engine σ κ) : (e.entered.registryOf h).entry id =
    (e.registryOf h).entry id := by
  rw [entered]
  split
  · rfl
  · rfl

theorem leftWith_withSpent (e : Engine σ κ) : e.leftWith e.entered.withSpent = e.withSpent := by
  rw [leftWith, entered]
  split
  · rfl
  · rfl

/-! ### Methods that are awaited -/

theorem run_call_of_suspend (there : (e.registryOf h).entry id = .ok entry)
    (suspend : entry.record.isSuspend = true) (type : PayloadType) :
    (call hooks h id args type).run e =
      (.error (misused entry "is a suspend method and must be awaited"), e.withSpent) := by
  rw [call, run_bind_of (run_invoke_of_suspend there suspend)]
  cases entry.record.awaitsEnvelope with
  | true => exact run_refuse there _ _ _
  | false => exact run_refuse there _ _ _

theorem run_suspendValue_of_envelope (there : (e.registryOf h).entry id = .ok entry)
    (envelope : entry.record.awaitsEnvelope = true) (type : PayloadType) :
    (suspendValue hooks h id args type).run e =
      (some (.error (misused entry "awaits an envelope")), e.withSpent) := by
  have declared : (e.entered.registryOf h).entry id = .ok entry := e.entry_entered.trans there
  have suspend := MethodRecord.isSuspend_of_awaitsEnvelope envelope
  have invoked : (invoke hooks h id args).run e.entered = _ :=
    run_invoke_of_suspend declared suspend
  simp only [envelope, if_true] at invoked
  rw [suspendValue, run_onRuntime, run_bind_of invoked, ← e.leftWith_withSpent]
  simp only [run_refuse declared _ "awaits an envelope"
    fun error => (some (.error error) : Option (Except Error (Option Payload)))]

theorem run_suspendEnvelope_of_value (there : (e.registryOf h).entry id = .ok entry)
    (suspend : entry.record.isSuspend = true) (value : entry.record.awaitsEnvelope = false) :
    (suspendEnvelope hooks h id args).run e =
      (some (.error (misused entry "awaits a bare value")), e.withSpent) := by
  have declared : (e.entered.registryOf h).entry id = .ok entry := e.entry_entered.trans there
  have invoked : (invoke hooks h id args).run e.entered = _ :=
    run_invoke_of_suspend declared suspend
  simp only [value, Bool.false_eq_true, if_false] at invoked
  rw [suspendEnvelope, run_onRuntime, run_bind_of invoked, ← e.leftWith_withSpent]
  simp only [run_refuse declared _ "awaits a bare value"
    fun error => (some (.error error) : Option (Except Error Envelope))]

/-! ### Direct methods -/

/-- Methods are declared as before after one of them was carried out. -/
theorem entry_carryOut (hooks : Hooks σ κ) (h : ClientHandle σ κ) (id : MethodId) (args : Arguments)
    (other : MethodId) (e : Engine σ κ) :
    ((((carryOut hooks h id args).run e).2).registryOf h).entry other =
      (e.registryOf h).entry other := by
  have looked {result : Except Error (Plan σ κ)} {e₁ : Engine σ κ}
      (ran : (resolve h id).run e = (result, e₁)) :
      (e₁.registryOf h).entry other = (e.registryOf h).entry other := by
    have same := entry_resolve h id other e
    rwa [ran] at same
  obtain ⟨made, course⟩ := course_carryOut hooks h id args e
  generalize ((carryOut hooks h id args).run e).1 = result at course
  generalize ((carryOut hooks h id args).run e).2 = e' at course ⊢
  cases course with
  | unresolved refused => exact looked refused
  | unmade resolved refused =>
      have same := looked resolved
      exact same
  | unadapted resolved requested refused =>
      have same := looked resolved
      rw [(spares_of_perform refused).registryOf]
      exact same
  | adapted resolved requested adapts =>
      have same := looked resolved
      rw [(spares_of_perform adapts).registryOf]
      exact same

/-- A helper that waits invokes a direct method, which carries it out, before it refuses. -/
theorem run_refuseDirect {rest : Except Error Invocation → EngineM σ κ (Option (Except Error α))}
    (there : (e.registryOf h).entry id = .ok entry) (direct : entry.record.isSuspend = false)
    (failed : ∀ error, rest (.error error) = pure (some (.error error)))
    (carried : ∀ value, rest (.ok (.direct value)) = do
      return some (.error (← wrongConvention h id "is a direct method"))) :
    (invoke hooks h id args >>= rest).run e =
      (some (.error (misusedDirect entry ((carryOut hooks h id args).run e).1)),
        ((carryOut hooks h id args).run e).2) := by
  have stays := (entry_carryOut hooks h id args id e).trans there
  rw [run_bind_of (run_invoke_of_direct there direct)]
  generalize (carryOut hooks h id args).run e = ran at stays
  obtain ⟨error | ⟨plan, payload⟩, e'⟩ := ran
  · exact congrArg (·.run e') (failed error)
  · exact (congrArg (·.run e') (carried payload)).trans
      (run_bind_of (run_wrongConvention stays "is a direct method"))

theorem run_suspendValue_of_direct (there : (e.registryOf h).entry id = .ok entry)
    (direct : entry.record.isSuspend = false) (type : PayloadType) :
    (suspendValue hooks h id args type).run e =
      (some (.error (misusedDirect entry ((onRuntime (carryOut hooks h id args)).run e).1)),
        ((onRuntime (carryOut hooks h id args)).run e).2) := by
  have declared : (e.entered.registryOf h).entry id = .ok entry := e.entry_entered.trans there
  rw [suspendValue, run_onRuntime, run_onRuntime,
    run_refuseDirect declared direct (fun _ => rfl) fun _ => rfl]

theorem run_suspendEnvelope_of_direct (there : (e.registryOf h).entry id = .ok entry)
    (direct : entry.record.isSuspend = false) :
    (suspendEnvelope hooks h id args).run e =
      (some (.error (misusedDirect entry ((onRuntime (carryOut hooks h id args)).run e).1)),
        ((onRuntime (carryOut hooks h id args)).run e).2) := by
  have declared : (e.entered.registryOf h).entry id = .ok entry := e.entry_entered.trans there
  rw [suspendEnvelope, run_onRuntime, run_onRuntime,
    run_refuseDirect declared direct (fun _ => rfl) fun _ => rfl]

/-! ### All helpers -/

/-- What comes of using a helper on a method that it does not fit. -/
structure RefusesMisuse (hooks : Hooks σ κ) (h : ClientHandle σ κ) (id : MethodId)
    (args : Arguments) (entry : MethodEntry σ) (e : Engine σ κ) : Prop where
  call : entry.record.isSuspend = true → ∀ type, (call hooks h id args type).run e =
    (.error (misused entry "is a suspend method and must be awaited"), e.withSpent)
  value : entry.record.awaitsEnvelope = true → ∀ type, (suspendValue hooks h id args type).run e =
    (some (.error (misused entry "awaits an envelope")), e.withSpent)
  envelope : entry.record.isSuspend = true → entry.record.awaitsEnvelope = false →
    (suspendEnvelope hooks h id args).run e =
      (some (.error (misused entry "awaits a bare value")), e.withSpent)
  /-- A direct method is carried out. A failure of that is reported instead of the mistake. -/
  directValue : entry.record.isSuspend = false → ∀ type,
    (suspendValue hooks h id args type).run e =
      (some (.error (misusedDirect entry ((onRuntime (carryOut hooks h id args)).run e).1)),
        ((onRuntime (carryOut hooks h id args)).run e).2)
  directEnvelope : entry.record.isSuspend = false →
    (suspendEnvelope hooks h id args).run e =
      (some (.error (misusedDirect entry ((onRuntime (carryOut hooks h id args)).run e).1)),
        ((onRuntime (carryOut hooks h id args)).run e).2)

/-- A helper that does not fit a method that is awaited reports the mistake, whatever else is wrong
with the method, and leaves all as it was. A direct method is carried out first. -/
theorem refuses_misuse (hooks : Hooks σ κ) (args : Arguments)
    (there : (e.registryOf h).entry id = .ok entry) : RefusesMisuse hooks h id args entry e where
  call suspend := run_call_of_suspend there suspend
  value envelope := run_suspendValue_of_envelope there envelope
  envelope suspend value := run_suspendEnvelope_of_value there suspend value
  directValue direct := run_suspendValue_of_direct there direct
  directEnvelope direct := run_suspendEnvelope_of_direct there direct

/-- The type of empty payloads. -/
def unitType : PayloadType := ⟨.unit, "()"⟩

/-- The mistake is reported of a method that could not be built, too. -/
theorem refuses_misuse_malformed :
    (openEngine.registryOf trusting).entry ⟨1⟩ = .ok ⟨"Api.any", openMethod⟩ ∧
      RefusesMisuse idleHooks trusting ⟨1⟩ [] ⟨"Api.any", openMethod⟩ openEngine ∧
      (call idleHooks trusting ⟨1⟩ [] unitType).run openEngine =
        (.error (.configuration (some "Api.any")
          "Method is a suspend method and must be awaited."), openEngine.withSpent) := by
  have refuses : RefusesMisuse idleHooks trusting ⟨1⟩ [] ⟨"Api.any", openMethod⟩ openEngine :=
    refuses_misuse idleHooks [] rfl
  exact ⟨rfl, refuses, refuses.call rfl unitType⟩

/-- A direct method, and one that no adapter fits. -/
def directMethods : ServiceDeclaration Unit where
  name := "Api"
  methods := [emptyRequestMethod "ping" (.direct (.call .unit)),
    emptyRequestMethod "user" (.direct (.named "User"))]

/-- An engine with direct methods. -/
def directEngine : Engine Unit Unit := ((register trusting directMethods).run newEngine).2

/-- To wait for a direct method is a mistake, but its plan is made and kept and a call is made for
it; and if no plan can be made, the mistake is not reported. -/
theorem misuse_of_direct_is_carried_out :
    directEngine.calls.length = 0 ∧
      ((directEngine.registryOf trusting).get? ⟨1⟩).isSome = false ∧
      ((suspendValue idleHooks trusting ⟨1⟩ [] unitType).run directEngine).2.calls.length = 1 ∧
      ((((suspendValue idleHooks trusting ⟨1⟩ [] unitType).run
        directEngine).2.registryOf trusting).get? ⟨1⟩).isSome = true ∧
      ((suspendEnvelope idleHooks trusting ⟨1⟩ []).run directEngine).2.calls.length = 1 ∧
      ((suspendEnvelope idleHooks trusting ⟨2⟩ []).run directEngine).1 =
        some (.error (.resolution (some "Api.user")
          ⟨.callAdapter, .named "User", [], ["DefaultCallAdapterFactory"]⟩)) := by
  exact ⟨rfl, rfl, rfl, rfl, rfl, rfl⟩

end Engine

end RemoteCall
