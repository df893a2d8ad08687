import RemoteCall.Engine.Methods

/-!
Futures: waiting for the result of a method or of a call.

Polling a future for the first time looks its method up, makes and adapts the call, and enqueues it;
each later poll only looks whether the outcome is there. Dropping a future that waits cancels its
call.
-/

namespace RemoteCall.Engine

variable {σ κ : Type}

/-- Polls the await of a future. -/
def pollBridge (hooks : Hooks σ κ) (future : Nat) (call : CallRef) (purpose : Purpose) :
    EngineM σ κ (Option (Except Error Awaited)) := do
  match (← get).futures[future]? with
  | some (.bridged _ _ _ await) =>
    let (first, _) := await.start
    if first then
      updateAwait future fun a => a.start.2
      settleAll hooks (← enqueueCall call (.resume future))
    match (← get).futures[future]? with
    | some (.bridged _ _ _ await) =>
      let (outcome, await) := await.check
      updateAwait future fun _ => await
      return outcome.map purpose.result
    | _ => return none
  | _ => return none

/-- Makes the call that a future is to wait for. -/
def startPlanned (hooks : Hooks σ κ) (future : Nat) (h : ClientHandle σ κ) (id : MethodId)
    (args : Arguments) (envelope : Bool) : EngineM σ κ (Except Error (CallRef × Purpose)) := do
  match ← resolve h id with
  | .error error => return .error error
  | .ok plan =>
    match ← callToAwait hooks plan args with
    | .error error => return .error error
    | .ok call =>
      let purpose : Purpose :=
        if envelope then .envelope
        else .value plan.method (plan.variant = .suspendForValue true)
      modify fun e => { e with futures := e.futures.set future (.bridged h call purpose {}) }
      return .ok (call, purpose)

/-- Polls a future: its result, or none while it waits. -/
def pollFuture (hooks : Hooks σ κ) (future : Nat) :
    EngineM σ κ (Option (Except Error Awaited)) := do
  match (← get).futures[future]? with
  | some (.planned h id args envelope) =>
    match ← startPlanned hooks future h id args envelope with
    | .error error =>
      forget future
      return some (.error error)
    | .ok (call, purpose) => pollBridge hooks future call purpose
  | some (.bridged _ call purpose _) => pollBridge hooks future call purpose
  | _ => return none

/-- Drops a future. If it waits, its call is canceled. -/
def dropFuture (hooks : Hooks σ κ) (future : Nat) : EngineM σ κ Unit := do
  match (← get).futures[future]? with
  | some (.bridged _ call _ await) =>
    let (cancel, _) := await.drop
    updateAwait future fun a => a.drop.2
    if cancel then settleAll hooks (← cancelCall call)
  | some (.planned ..) => forget future
  | _ => pure ()

/-- The future of the outcome of a call. -/
def awaitCall (call : CallRef) (purpose : Purpose) : EngineM σ κ Nat :=
  addFuture (.bridged none call purpose {})

/-- Runs an operation as the code of the running runtime, if there is one. -/
def onRuntime {α : Type} (f : EngineM σ κ α) : EngineM σ κ α := do
  if (← get).runtime = .running then inContext .currentThread f else f

/-- Waits for a future: polls it, lets a running runtime poll its tasks until none is ready, and
polls it again. A future that still waits then is dropped, and the result is none. -/
def blockOn (hooks : Hooks σ κ) (future : Nat) : EngineM σ κ (Option (Except Error Awaited)) := do
  match ← pollFuture hooks future with
  | some result => return some result
  | none =>
    pumpRuntime hooks
    match ← pollFuture hooks future with
    | some result => return some result
    | none =>
      dropFuture hooks future
      return none

/-- Invokes a method that is awaited for a body of the given type, and waits for it. -/
def suspendValue (hooks : Hooks σ κ) (h : ClientHandle σ κ) (id : MethodId) (args : Arguments)
    (type : PayloadType) : EngineM σ κ (Option (Except Error (Option Payload))) := onRuntime do
  match ← invoke hooks h id args with
  | .error error => return some (.error error)
  | .ok (.envelope future) => do
    forget future
    return some (.error (← wrongConvention h id "awaits an envelope"))
  | .ok (.direct _) => return some (.error (← wrongConvention h id "is a direct method"))
  | .ok (.value future) =>
    match ← blockOn hooks future with
    | none => return none
    | some (.error error) => return some (.error error)
    | some (.ok (.value none)) => return some (.ok none)
    | some (.ok (.value (some payload))) => return some ((payload.expect type).map some)
    | some (.ok (.envelope _)) => return none

/-- Invokes a method that is awaited for its envelope, and waits for it. -/
def suspendEnvelope (hooks : Hooks σ κ) (h : ClientHandle σ κ) (id : MethodId) (args : Arguments) :
    EngineM σ κ (Option (Except Error Envelope)) := onRuntime do
  match ← invoke hooks h id args with
  | .error error => return some (.error error)
  | .ok (.value future) => do
    forget future
    return some (.error (← wrongConvention h id "awaits a bare value"))
  | .ok (.direct _) => return some (.error (← wrongConvention h id "is a direct method"))
  | .ok (.envelope future) =>
    match ← blockOn hooks future with
    | none => return none
    | some (.error error) => return some (.error error)
    | some (.ok (.envelope envelope)) => return some (.ok envelope)
    | some (.ok (.value _)) => return none

end RemoteCall.Engine
