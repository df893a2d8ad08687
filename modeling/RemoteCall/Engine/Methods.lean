import RemoteCall.Engine.Turn
import RemoteCall.Registry.Race

/-!
Services: registering methods, making their plans, and calling them.

`register` adds all methods of a declaration or none. `resolve` makes the plan of a method at its
first use. `invoke` carries a direct method out at once; for a method that is awaited it only gives
a future, and everything else happens when that is polled.
-/

namespace RemoteCall.Engine

variable {σ κ : Type}

/-! ### Registering -/

/-- Gives a client its own empty registry. -/
def openClient (client : Client σ κ) : EngineM σ κ (ClientHandle σ κ) := do
  let e ← get
  set { e with registries := e.registries ++ [Registry.empty] }
  return ⟨client, e.registries.length⟩

/-- The registry of a client. -/
def registryOf (e : Engine σ κ) (h : ClientHandle σ κ) : Registry (MethodEntry σ) (Plan σ κ) :=
  e.registries[h.registry]?.getD .empty

/-- Changes the registry of a client. -/
def setRegistry (h : ClientHandle σ κ) (r : Registry (MethodEntry σ) (Plan σ κ)) :
    EngineM σ κ Unit :=
  modify fun e => { e with registries := e.registries.set h.registry r }

/-- The first name that an earlier one in the list repeats. -/
def duplicate? : List String → List String → Option String
  | _, [] => none
  | seen, name :: names => if seen.contains name then some name else duplicate? (name :: seen) names

/-- Makes the plan of a method. -/
def makePlan (h : ClientHandle σ κ) (id : MethodId) (entry : MethodEntry σ) :
    StateM σ (Except Error (Plan σ κ)) :=
  settleSearch (planFor h.client id entry)

/-- The plan of a method, made at the first use. -/
def resolve (h : ClientHandle σ κ) (id : MethodId) : EngineM σ κ (Except Error (Plan σ κ)) := do
  let r := (← get).registryOf h
  let (result, r) ← onPlugins (r.resolve id (makePlan h))
  setRegistry h r
  return result

/-- Lets several callers resolve a method at the same time, in turns: what each of them got. -/
def resolveTogether (h : ClientHandle σ κ) (id : MethodId) (callers : Nat) :
    EngineM σ κ (List (BuildEnd (Plan σ κ))) := do
  let race := Race.ofCallers ((← get).registryOf h) callers id
  let race ← onPlugins (race.finishAll (makePlan h) callers)
  setRegistry h race.registry
  return race.results

/-- Makes the plans of several methods, up to the first that fails. -/
def resolveAll (h : ClientHandle σ κ) : List MethodId → EngineM σ κ (Option Error)
  | [] => return none
  | id :: ids => do
    match ← resolve h id with
    | .error error => return some error
    | .ok _ => resolveAll h ids

/-- Adds the methods of a declaration to a registry. -/
def addMethods (service : String) (r : Registry (MethodEntry σ) (Plan σ κ)) :
    List (MethodRecord σ) → List (String × MethodId) × Registry (MethodEntry σ) (Plan σ κ)
  | [] => ([], r)
  | record :: records =>
    let (id, r) := r.register ⟨qualifiedName service record.name, record⟩
    let (methods, r) := addMethods service r records
    ((record.name, id) :: methods, r)

/-- Registers a service. A repeated method name is an error. A client that validates eagerly makes
all plans now; if one fails, no method of the service stays. -/
def register (h : ClientHandle σ κ) (d : ServiceDeclaration σ) :
    EngineM σ κ (Except Error Service) := do
  match duplicate? [] (d.methods.map (·.name)) with
  | some name =>
    return .error (.configuration (some (qualifiedName d.name name)) "Duplicate method name.")
  | none =>
    let (methods, r) := addMethods d.name ((← get).registryOf h) d.methods
    setRegistry h r
    let service : Service := ⟨d.name, methods⟩
    if h.client.eager then
      match ← resolveAll h service.ids with
      | some error =>
        setRegistry h (service.ids.foldl Registry.remove ((← get).registryOf h))
        return .error error
      | none => return .ok service
    else
      return .ok service

/-! ### Calling -/

/-- Makes the request of a method and a fresh call for it. -/
def newMethodCall (plan : Plan σ κ) (args : Arguments) : EngineM σ κ (Except Error CallRef) := do
  match ← onPlugins (plan.request plan.baseUrl args) with
  | .error fault => return .error (.request plan.method fault)
  | .ok request => return .ok (← newCall plan.calls request plan.responseConverter)

/-- What the adapter of a method makes of a call. -/
def adaptCall (hooks : Hooks σ κ) (plan : Plan σ κ) (call : CallRef) :
    EngineM σ κ (Except Error Payload) := do
  match ← perform (settleAll hooks) (plan.callAdapter.adapt call) with
  | .error fault => return .error (.adapt plan.method fault)
  | .ok payload => return .ok payload

/-- A fresh call of a method, adapted. -/
def callMethod (hooks : Hooks σ κ) (plan : Plan σ κ) (args : Arguments) :
    EngineM σ κ (Except Error Payload) := do
  match ← newMethodCall plan args with
  | .error error => return .error error
  | .ok call => adaptCall hooks plan call

/-- The failure of a method that is awaited, but whose adapter makes no call. -/
def notACall (method : String) : Error :=
  .adapt method (.plain "call adapter for a suspend method must produce an Arc<dyn Call>")

/-- A fresh call of a method that is awaited. -/
def callToAwait (hooks : Hooks σ κ) (plan : Plan σ κ) (args : Arguments) :
    EngineM σ κ (Except Error CallRef) := do
  match ← callMethod hooks plan args with
  | .error error => return .error error
  | .ok payload => return payload.call?.elim (.error (notACall plan.method)) .ok

/-- What an invocation gives. -/
inductive Invocation where
  | direct (value : Payload)
  /-- The future of a body. -/
  | value (future : Nat)
  /-- The future of an envelope. -/
  | envelope (future : Nat)

/-- Adds a future. -/
def addFuture (stage : FutureStage σ κ) : EngineM σ κ Nat := do
  let e ← get
  set { e with futures := e.futures ++ [stage] }
  return e.futures.length

/-- Invokes a method. -/
def invoke (hooks : Hooks σ κ) (h : ClientHandle σ κ) (id : MethodId) (args : Arguments) :
    EngineM σ κ (Except Error Invocation) := do
  match ((← get).registryOf h).entry id with
  | .error error => return .error error
  | .ok entry =>
    if entry.record.isSuspend then
      let future ← addFuture (.planned h id args entry.record.awaitsEnvelope)
      return .ok (if entry.record.awaitsEnvelope then .envelope future else .value future)
    else
      match ← resolve h id with
      | .error error => return .error error
      | .ok plan => return (← callMethod hooks plan args).map .direct

/-- The error for a method that is invoked in a way it is not made for. -/
def wrongConvention (h : ClientHandle σ κ) (id : MethodId) (reason : String) :
    EngineM σ κ Error := do
  let method := ((← get).registryOf h).entry id |>.toOption.map (·.qualified)
  return .configuration method ("Method " ++ reason ++ ".")

/-- Gives a future up before its first poll. -/
def forget (future : Nat) : EngineM σ κ Unit :=
  modify fun e => { e with futures := e.futures.set future .ended }

/-- Invokes a direct method for a value of the given type. -/
def call (hooks : Hooks σ κ) (h : ClientHandle σ κ) (id : MethodId) (args : Arguments)
    (type : PayloadType) : EngineM σ κ (Except Error Payload) := do
  match ← invoke hooks h id args with
  | .error error => return .error error
  | .ok (.direct value) => return value.expect type
  | .ok (.value future) | .ok (.envelope future) => do
    forget future
    return .error (← wrongConvention h id "is a suspend method and must be awaited")

end RemoteCall.Engine
