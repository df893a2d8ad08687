import RemoteCall.Method.Routes
import RemoteCall.Scenario.Rule

/-!
The language of scenarios: how a client is set up, what is done with it step by step, and what each
step answers.

Clients, calls and futures go by names. A step that can not be carried out is refused (`Refusal`).
-/

namespace RemoteCall.Scenario

/-! ### Clients -/

/-- What happens to a request that takes a route. -/
inductive RouteEnd where
  | reply (raw : RawResponse)
  | fail (error : TransportError)
  | hang
  /-- A transport waits until the key is released. -/
  | hold (key : String)

/-- A route: the URL it is for, any if none is given, and its end. -/
structure Route where
  url : Option String
  target : RouteEnd

/-- The failure of a request without a route. -/
def noRoute : TransportError := .io "no route"

/-- The end of the first route that fits a request. -/
def routeFor (routes : List Route) (request : Request) : RouteEnd :=
  ((routes.find? fun r => r.url.all (· == request.url)).map (·.target)).getD (.fail noRoute)

/-- The script of a call. A scripted call has nobody to wait for, so it hangs instead. -/
def RouteEnd.script : RouteEnd → Script
  | reply raw => .reply raw
  | fail error => .fail error
  | hang | hold _ => .hang

/-- The behaviour of a connection. -/
def RouteEnd.connection : RouteEnd → Connection
  | reply raw => .answers (.ok raw)
  | fail error => .answers (.error error)
  | hang => .silent
  | hold key => .held key

/-- Where the calls of a client come from. -/
inductive CallsSpec where
  | scripted (routes : List Route)
  | wired (routes : List Route)
  | lossy

/-- A factory of a client. -/
inductive FactorySpec where
  /-- Decodes text for the given shape. -/
  | text (shape : Shape)
  | builtIn
  | default (executor : Option Executor)
  | rules (rules : List Rule)

/-- The settings of a client, or changes to them: what is not given stays as it is. -/
structure ClientSpec where
  baseUrl : Option String := none
  calls : Option CallsSpec := none
  converters : List (String × FactorySpec) := []
  adapters : List (String × FactorySpec) := []
  executor : Option Executor := none
  eager : Option Bool := none

/-! ### Steps -/

/-- The chains that a scan may go through. -/
inductive ScanChain where
  | converters | adapters | empty

/-- A scan of a chain by a scripted probe. -/
structure ScanSpec where
  chain : ScanChain
  skipPast : Option UInt64
  /-- The places that match. -/
  matchAt : List Nat
  /-- The place that fails, and how. -/
  faultAt : Option Nat
  fault : Fault
  /-- Whether a scan without a match is an error. -/
  resolve : Bool
  capability : Capability
  shape : Shape
  /-- A place to look at. -/
  place : Nat

/-- A step of a scenario. -/
inductive Step where
  | info (client : String)
  | cloneClient (client name : String)
  | rebuild (client name : String) (changes : ClientSpec)
  | register (client : String) (service : ServiceDeclaration Notes)
  | serviceId (nth : Nat) (method : String)
  | resolve (client : String) (id : MethodId)
  | plan (client : String) (id : MethodId)
  | decode (client : String) (id : MethodId) (body : ResponseBody)
  | planCall (client : String) (id : MethodId) (args : Arguments) (adapt : Bool) (name : String)
  | findAdapter (client : String) (shape : Shape) (tags : Metadata) (skipPast : Option UInt64)
  | findResponse (client : String) (shape : Shape) (tags : Metadata) (skipPast : Option UInt64)
      (body : ResponseBody)
  | findRequest (client : String) (shape : Shape) (parameter method : Metadata)
      (skipPast : Option UInt64) (argument : Argument)
  | findString (client : String) (shape : Shape) (tags : Metadata) (argument : Argument)
  | scan (client : String) (spec : ScanSpec)
  | invoke (client : String) (id : MethodId) (args : Arguments) (name : String)
  | call (client : String) (id : MethodId) (args : Arguments) (type : PayloadType) (name : String)
  | suspendValue (client : String) (id : MethodId) (args : Arguments) (type : PayloadType)
  | suspendEnvelope (client : String) (id : MethodId) (args : Arguments)
  | madeCalls (client : String)
  | complete (client : String) (nth : Nat) (raw : RawResponse)
  | cancelNth (client : String) (nth : Nat)
  | resolveTogether (client : String) (id : MethodId) (callers : Nat)
  | state (call : String)
  | cancel (call : String)
  | clone (call name : String)
  | dropCall (call : String)
  | dispatch (call : String) (executor : Executor) (name : String)
  | awaitCall (call : String) (purpose : Purpose) (name : String)
  | execute (call : String) (inside : Context)
  | enqueue (call : String) (listener : Listener)
  | poll (future : String)
  | drop (future : String)
  | run
  | submit (executor : Executor) (labels : List String)
  | pump
  | shutdown
  | release (key : String) (reply : Reply)

/-- Whether the events of a step have no order of their own once tasks are at work. -/
def Step.isConcurrent : Step → Bool
  | pump | run | shutdown | suspendValue .. | suspendEnvelope .. => true
  | _ => false

/-! ### Answers -/

/-- Why a step could not be carried out. -/
inductive Refusal where
  | noClient | noCall | noFuture | noService | noPlan | noMaker | noSuchCall | noRuntime
  | noTransport | wouldBlock
deriving DecidableEq

/-- A payload as an answer shows it: of a call the request. -/
inductive Shown where
  | payload (payload : Payload)
  | call (request : Request)

/-- The result of a scan. -/
structure ScanResult where
  found : Except Error (Option Nat)
  /-- The places that were probed. -/
  seen : List Nat
  length : Nat
  isEmpty : Bool
  name : Option String
  position : Option Nat

/-- What a step answers. -/
inductive Answer where
  | nothing
  | refused (refusal : Refusal)
  | error (error : Error)
  | fault (fault : Fault)
  | flag (value : Bool)
  | pending
  | methodId (id : MethodId)
  | made (name : String)
  | info (client : Client Notes Listener) (methods : Nat)
  | service (service : Service)
  | resolved (plan : Plan Notes Listener) (object : Nat)
  | plan (plan : Plan Notes Listener) (object : Nat)
  | adapterFor (responseType : Shape)
  | converted (result : Except Fault Payload)
  | encoded (result : Except Fault RequestBody)
  | rendered (result : Except Fault String)
  | scanned (result : ScanResult)
  | invoked (value : Option Shown) (written : String)
  | value (value : Option Shown)
  /-- A value of a type that the step names. -/
  | typed (value : Option Shown)
  | envelope (envelope : Envelope)
  | calls (calls : List (CallView × Bool))
  | state (call : CallView)
  | dispatched (delegates : Bool)
  | drained (pending count ran : Nat)
  | submitted (pending : Nat)
  | together (succeeded : Nat) (same : Bool) (errors : List String) (reports : Nat)

end RemoteCall.Scenario
