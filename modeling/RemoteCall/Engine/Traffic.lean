import RemoteCall.Call.Exchange
import RemoteCall.Engine.Futures

/-!
The calls of a client, from the invocation of a method to the outcome.

In a `Traffic` the engine invokes the methods of one client and polls what is awaited for the first
time; it makes the plans and the calls and adapts them. From the moment at which a callback is
enqueued the exchange has it, so made calls may complete and executors may run their jobs at any
time. Methods may be looked up at any time, too, and calls may be copied or run on the spot. What
else becomes of the plug-ins and of the made calls is left open.
-/

namespace RemoteCall

/-- The engine of a client and the callbacks on its calls. -/
structure Traffic (σ κ : Type) where
  engine : Engine σ κ
  exchange : Exchange := {}
  /-- What the invocations of direct methods have given, with the methods, the latest first. -/
  given : List (MethodId × Payload) := []
  /-- The methods that are awaited, each with the number of its operation, the latest first. -/
  awaited : List (MethodId × Nat) := []

/-- What may happen next. -/
inductive TrafficStep (σ κ : Type) where
  /-- A method is looked up. It is built if it has no plan. -/
  | resolve (id : MethodId)
  | invoke (id : MethodId) (args : Arguments)
  /-- A future is polled for the first time: the call of its method is made and enqueued. -/
  | await (future : Nat)
  /-- A call is run on the spot. -/
  | execute (call : CallRef)
  /-- A fresh call like another is made. -/
  | clone (call : CallRef)
  /-- A callback is enqueued, a call is canceled or completes, or a job is run or dropped. -/
  | carry (step : ExchangeStep)
  /-- The plug-ins and the made calls change for any other reason. -/
  | change (plugins : σ) (calls : List (MadeCall σ κ))

/-- What the invocation of a direct method has given. -/
def Engine.Invocation.value? : Engine.Invocation → Option Payload
  | .direct payload => some payload
  | .value _ | .envelope _ => none

namespace Traffic

variable {σ κ : Type}

/-- Keeps what an invocation has given. -/
def invoked (t : Traffic σ κ) (id : MethodId) (result : Except Error Engine.Invocation)
    (engine : Engine σ κ) : Traffic σ κ :=
  match result.toOption.bind Engine.Invocation.value? with
  | some payload => { t with engine, given := (id, payload) :: t.given }
  | none => { t with engine }

/-- The steps; none where a step is not enabled. -/
def step? (hooks : Hooks σ κ) (h : ClientHandle σ κ) (t : Traffic σ κ) :
    TrafficStep σ κ → Option (Traffic σ κ)
  | .resolve id => some { t with engine := ((Engine.resolve h id).run t.engine).2 }
  | .invoke id args =>
    let (result, engine) := (Engine.invoke hooks h id args).run t.engine
    some (t.invoked id result engine)
  | .await future =>
    match t.engine.futures[future]? with
    | some (.planned h id args envelope) =>
      match (Engine.startPlanned hooks future h id args envelope).run t.engine with
      | (.error _, engine) => some { t with engine := ((Engine.forget future).run engine).2 }
      | (.ok (call, _), engine) =>
        (t.exchange.step? (.enqueue call)).map fun exchange => { t with
          engine, exchange
          awaited := (id, t.exchange.ops.length) :: t.awaited }
    | _ => none
  | .execute call => some { t with engine := ((Engine.executeCall call).run t.engine).2 }
  | .clone call => some { t with engine := ((Engine.cloneCall call).run t.engine).2 }
  | .carry step => (t.exchange.step? step).map fun exchange => { t with exchange }
  | .change plugins calls => some { t with engine := { t.engine with plugins, calls } }

end Traffic

end RemoteCall
