import RemoteCall.Client.Setup
import RemoteCall.Scenario.Step

/-!
Sessions: carrying out the steps of a scenario.

A session keeps the engine and the names that steps use. Replacing what a name stands for lets go of
the old call or client, or drops the old future; a plan that was shown is kept to the end. After
each step the calls that nobody can reach any more are collected, and the events since the step
before are taken out.
-/

namespace RemoteCall.Scenario

/-- Handles of the clients of a scenario. -/
abbrev Handle := ClientHandle Notes Listener

/-- The state of a scenario. -/
structure Session where
  engine : Engine Notes Listener := { plugins := {} }
  clients : List (String × Handle) := []
  calls : List (String × CallRef) := []
  futures : List (String × Nat) := []
  services : List Service := []
  /-- The plans that were shown, each by its registry and method. -/
  shown : List (Nat × MethodId) := []
  nextKey : Nat := 1
  nextMaker : Nat := 0
  /-- Whether tasks may run in any order. -/
  unordered : Bool := false

/-- Operations on a session. -/
abbrev SessionM := StateM Session

/-- Runs an operation of the engine. -/
def onEngine {α : Type} (f : EngineM Notes Listener α) : SessionM α := do
  let s ← get
  let (a, e) := f s.engine
  set { s with engine := e }
  return a

/-- Does what is due. -/
def settleDue (due : EngineM Notes Listener (List (Due Notes Listener))) : SessionM Unit :=
  onEngine do Engine.settleAll hooks (← due)

/-- A list of names with a new meaning for one of them. -/
def bindName {α : Type} (names : List (String × α)) (name : String) (value : α) :
    List (String × α) :=
  (name, value) :: names.filter (·.1 != name)

/-- A list of names without one of them. -/
def unbindName {α : Type} (names : List (String × α)) (name : String) : List (String × α) :=
  names.filter (·.1 != name)

/-! ### Names -/

/-- Lets go of the call under a name. -/
def forgetCall (name : String) : SessionM Unit := do
  let s ← get
  match s.calls.lookup name with
  | none => pure ()
  | some call =>
    set { s with calls := unbindName s.calls name }
    onEngine (Engine.letGo call)

/-- Keeps a call under a name. -/
def nameCall (name : String) (call : CallRef) : SessionM Unit := do
  onEngine (Engine.keep call)
  forgetCall name
  modify fun s => { s with calls := bindName s.calls name call }

/-- Keeps a future under a name, and drops the one that had the name. -/
def nameFuture (name : String) (future : Nat) : SessionM Unit := do
  let s ← get
  set { s with futures := bindName s.futures name future }
  match s.futures.lookup name with
  | none => pure ()
  | some old => onEngine (Engine.dropFuture hooks old)

/-- A payload as it is shown. -/
def reveal (payload : Payload) : SessionM Shown := do
  match payload with
  | .call call => return .call ((← get).engine.view call).request
  | payload => return .payload payload

/-- Shows a payload; a call is kept under the name. -/
def showAndName (name : String) (payload : Payload) : SessionM Shown := do
  match payload with
  | .call call => nameCall name call
  | _ => pure ()
  reveal payload

/-- The number of a plan among those shown, a new one if it was not shown before. -/
def numberOf (h : Handle) (id : MethodId) : SessionM Nat := do
  let s ← get
  match s.shown.findIdx? (· = (h.registry, id)) with
  | some number => return number
  | none =>
    set { s with shown := s.shown ++ [(h.registry, id)] }
    onEngine (Engine.keepMaker h.client.calls)
    return s.shown.length

/-! ### Clients -/

/-- Gets ready what an executor needs. -/
def needExecutor (executor : Executor) : SessionM Unit := do
  match executor with
  | .serial => onEngine Engine.needSerial
  | .concurrent =>
    onEngine Engine.needRuntime
    modify fun s => { s with unordered := true }
  | _ => pure ()

/-- Makes a factory. -/
def makeFactory (name : String) (spec : FactorySpec) : SessionM (Factory Notes Listener) := do
  let key := (← get).nextKey
  modify fun s => { s with nextKey := key + 1 }
  match spec with
  | .text shape => return textConverters key shape
  | .builtIn => return builtInConverters key
  | .default executor =>
    executor.forM needExecutor
    return defaultAdapter key executor
  | .rules rules => return scriptedFactory key name rules

/-- Makes factories, each of them together with its name a setting. -/
def makeSettings (setting : String → Factory Notes Listener → Setting Notes Listener)
    (specs : List (String × FactorySpec)) : SessionM (List (Setting Notes Listener)) :=
  specs.mapM fun (name, spec) => return setting name (← makeFactory name spec)

/-- Makes a call maker. -/
def makeMaker : CallsSpec → SessionM CallMaker
  | .scripted routes => do
    let number := (← get).nextMaker
    modify fun s => { s with nextMaker := number + 1 }
    return .scripted number fun request => (routeFor routes request).script
  | .wired routes => do
    onEngine Engine.needRuntime
    modify fun s => { s with unordered := true }
    let connect := fun request => (routeFor routes request).connection
    onEngine (Engine.useTransport connect)
    return .wired connect
  | .lossy => return .lossy

/-- Settings with changes. -/
def changeSettings (settings : ClientSettings Notes Listener) (changes : ClientSpec) :
    SessionM (ClientSettings Notes Listener) := do
  let calls ← changes.calls.mapM makeMaker
  let converters ← makeSettings .converter changes.converters
  let adapters ← makeSettings .adapter changes.adapters
  changes.executor.forM needExecutor
  return settings.setAll (changes.baseUrl.toList.map .baseUrl ++ calls.toList.map .calls ++
    converters ++ adapters ++ changes.executor.toList.map .executor ++
    changes.eager.toList.map .eager)

/-- Keeps a client under a name, and lets go of the one that had the name. -/
def nameClient (name : String) (handle : Handle) : SessionM Unit := do
  let s ← get
  set { s with clients := bindName s.clients name handle }
  onEngine (Engine.keepMaker handle.client.calls)
  match s.clients.lookup name with
  | none => pure ()
  | some old => onEngine (Engine.letGoMaker old.client.calls)

/-- Makes a client under a name. -/
def makeClient (name : String) (settings : ClientSettings Notes Listener) : SessionM Answer := do
  match settings.build with
  | .error error => return .error error
  | .ok client =>
    nameClient name (← onEngine (Engine.openClient client))
    return .made name

/-! ### Steps on clients -/

/-- Carries out a search of a client. -/
def search {α : Type} (s : Search Notes (Except Error α)) : SessionM (Except Error α) :=
  onEngine (Engine.onPlugins (settleSearch s))

/-- A scripted probe that notes the places it sees. -/
def scanProbe (spec : ScanSpec) (place : Nat) (_ : Factory Notes Listener) :
    StateM (List Nat) (Except Fault (Option Nat)) := do
  modify (· ++ [place])
  if spec.faultAt = some place then return .error spec.fault
  else if spec.matchAt.contains place then return .ok (some place)
  else return .ok none

/-- Scans a chain. -/
def scanChain (client : Client Notes Listener) (spec : ScanSpec) : ScanResult :=
  let chain := match spec.chain with
    | .converters => client.converters
    | .adapters => client.adapters
    | .empty => .empty
  let (found, seen) := StateT.run (s := []) <|
    if spec.resolve then do
      return (← chain.resolve spec.capability spec.shape spec.skipPast (scanProbe spec)).map some
    else
      chain.find spec.skipPast (scanProbe spec)
  { found, seen
    length := chain.length
    isEmpty := chain.isEmpty
    name := chain.name? spec.place
    position := (chain.get? spec.place).bind fun f =>
      chain.entries.findIdx? (·.item.key = f.key) }

/-- The made calls of a client's call maker with their indices; none if it keeps no list. -/
def madeCallsOf (e : Engine Notes Listener) (h : Handle) : Option (List Nat) :=
  match h.client.calls with
  | .scripted number _ =>
    some <| e.calls.zipIdx.filterMap fun (call, index) =>
      match call with
      | .scripted maker _ => if maker = some number then some index else none
      | _ => none
  | _ => none

/-- The answer to several callers who resolve a method. -/
def togetherAnswer (h : Handle) (id : MethodId) (callers : Nat) : SessionM Answer := do
  let results ← onEngine (Engine.resolveTogether h id callers)
  let reports := (← get).engine.plugins.events.length
  onEngine (Engine.onPlugins (modify fun n => { n with events := [] }))
  let plans := results.filterMap fun
    | .built plan => some plan.id
    | _ => none
  let errors := results.filterMap fun
    | .failed error => some error.message
    | _ => none
  return .together plans.length (plans.all fun p => plans.head? = some p)
    (errors.mergeSort fun a b => a ≤ b) reports

/-- The answer with a future's result. -/
def awaitedAnswer : Except Error Awaited → SessionM Answer
  | .error error => return .error error
  | .ok (.envelope envelope) => return .envelope envelope
  | .ok (.value body) => return .value (← body.mapM reveal)

/-- Carries out a step that uses a client. -/
def clientStep (h : Handle) : Step → SessionM Answer
  | .info _ => do return .info h.client ((← get).engine.registryOf h).size
  | .cloneClient _ name => do
    nameClient name h
    return .nothing
  | .rebuild _ name changes => do makeClient name (← changeSettings h.client.settings changes)
  | .register _ declaration => do
    match ← onEngine (Engine.register h declaration) with
    | .error error => return .error error
    | .ok service =>
      modify fun s => { s with services := s.services ++ [service] }
      return .service service
  | .resolve _ id => do
    match ← onEngine (Engine.resolve h id) with
    | .error error => return .error error
    | .ok plan => return .resolved plan (← numberOf h id)
  | .plan _ id => do
    match ((← get).engine.registryOf h).get? id with
    | none => return .nothing
    | some plan => return .plan plan (← numberOf h id)
  | .decode _ id body => do
    match ((← get).engine.registryOf h).get? id with
    | none => return .refused .noPlan
    | some plan =>
      match ← onEngine (Engine.onPlugins (plan.responseConverter body)) with
      | .error fault => return .fault fault
      | .ok payload => return .value (some (← reveal payload))
  | .planCall _ id args adapt name => do
    match ((← get).engine.registryOf h).get? id with
    | none => return .refused .noPlan
    | some plan =>
      match ← onEngine (Engine.newMethodCall plan args) with
      | .error error => return .error error
      | .ok call =>
        let result ←
          if adapt then onEngine (Engine.adaptCall hooks plan call) else pure (.ok (.call call))
        match result with
        | .error error => return .error error
        | .ok payload => return .value (some (← showAndName name payload))
  | .findAdapter _ shape tags skipPast => do
    match ← search (h.client.next (.callAdapter shape tags) skipPast) with
    | .error error => return .error error
    | .ok adapter => return .adapterFor (CallAdapter.responseType adapter)
  | .findResponse _ shape tags skipPast body => do
    match ← search (h.client.next (.responseConverter shape tags) skipPast) with
    | .error error => return .error error
    | .ok (converter : ResponseConverter Notes) =>
      return .converted (← onEngine (Engine.onPlugins (converter body)))
  | .findRequest _ shape parameter method skipPast argument => do
    match ← search (h.client.next (.requestConverter shape parameter method) skipPast) with
    | .error error => return .error error
    | .ok (converter : RequestConverter Notes) =>
      return .encoded (← onEngine (Engine.onPlugins (converter argument)))
  | .findString _ shape tags argument => do
    match ← search (h.client.offer (.stringConverter shape tags)) with
    | .error error => return .error error
    | .ok (converter : StringConverter Notes) =>
      return .rendered (← onEngine (Engine.onPlugins (converter argument)))
  | .scan _ spec => return .scanned (scanChain h.client spec)
  | .invoke _ id args name => do
    match ← onEngine (Engine.invoke hooks h id args) with
    | .error error => return .error error
    | .ok (.direct payload) =>
      return .invoked (some (← showAndName name payload)) "Invocation::Direct(..)"
    | .ok (.value future) => do
      nameFuture name future
      return .invoked none "Invocation::Value(..)"
    | .ok (.envelope future) => do
      nameFuture name future
      return .invoked none "Invocation::Envelope(..)"
  | .call _ id args type name => do
    match ← onEngine (Engine.call hooks h id args type) with
    | .error error => return .error error
    | .ok payload => return .typed (some (← showAndName name payload))
  | .suspendValue _ id args type => do
    match ← onEngine (Engine.suspendValue hooks h id args type) with
    | none => return .pending
    | some (.error error) => return .error error
    | some (.ok body) => return .typed (← body.mapM reveal)
  | .suspendEnvelope _ id args => do
    match ← onEngine (Engine.suspendEnvelope hooks h id args) with
    | none => return .pending
    | some (.error error) => return .error error
    | some (.ok envelope) => return .envelope envelope
  | .madeCalls _ => do
    let e := (← get).engine
    match madeCallsOf e h with
    | none => return .refused .noMaker
    | some calls => return .calls (calls.map fun i => (e.view (.made i), e.isParked i))
  | .complete _ nth raw => do
    match madeCallsOf (← get).engine h with
    | none => return .refused .noMaker
    | some calls =>
      match calls[nth]? with
      | none => return .refused .noSuchCall
      | some index =>
        let (waiting, due) ← onEngine (Engine.completeCall index raw)
        settleDue (pure due)
        return .flag waiting
  | .cancelNth _ nth => do
    match madeCallsOf (← get).engine h with
    | none => return .refused .noMaker
    | some calls =>
      match calls[nth]? with
      | none => return .refused .noSuchCall
      | some index =>
        settleDue (Engine.cancelCall (.made index))
        return .nothing
  | .resolveTogether _ id callers => togetherAnswer h id callers
  | _ => return .nothing

/-! ### Steps on calls and futures -/

/-- Carries out a step that uses a call. -/
def callStep (call : CallRef) : Step → SessionM Answer
  | .state _ => do return .state ((← get).engine.view call)
  | .cancel _ => do
    settleDue (Engine.cancelCall call)
    return .nothing
  | .clone _ name => do
    nameCall name (← onEngine (Engine.cloneCall call))
    return .nothing
  | .dropCall name => do
    forgetCall name
    return .nothing
  | .dispatch _ executor name => do
    needExecutor executor
    nameCall name (.dispatching executor call)
    return .dispatched true
  | .awaitCall _ purpose name => do
    nameFuture name (← onEngine (Engine.awaitCall call purpose))
    return .nothing
  | .execute _ inside => do
    match ← onEngine (Engine.inContext inside (Engine.tryExecuteCall call)) with
    | none => return .refused .wouldBlock
    | some (.error error) => return .error error
    | some (.ok envelope) => return .envelope envelope
  | .enqueue _ listener => do
    settleDue (Engine.enqueueCall call (.user listener))
    return .nothing
  | _ => return .nothing

/-- Carries out a step that uses a future. -/
def futureStep (name : String) (future : Nat) : Step → SessionM Answer
  | .poll _ => do
    match ← onEngine (Engine.pollFuture hooks future) with
    | none => return .pending
    | some result =>
      modify fun s => { s with futures := unbindName s.futures name }
      awaitedAnswer result
  | .drop _ => do
    modify fun s => { s with futures := unbindName s.futures name }
    onEngine (Engine.dropFuture hooks future)
    return .flag true
  | _ => return .nothing

/-! ### All steps -/

/-- The client that a step uses. -/
def Step.client? : Step → Option String
  | info c | cloneClient c _ | rebuild c .. | register c _ | resolve c _ | plan c _ | decode c ..
  | planCall c .. | findAdapter c .. | findResponse c .. | findRequest c .. | findString c ..
  | scan c _ | invoke c .. | call c .. | suspendValue c .. | suspendEnvelope c .. | madeCalls c
  | complete c .. | cancelNth c _ | resolveTogether c .. => some c
  | _ => none

/-- The call that a step uses. -/
def Step.call? : Step → Option String
  | state c | cancel c | clone c _ | dropCall c | dispatch c .. | awaitCall c .. | execute c _
  | enqueue c _ => some c
  | _ => none

/-- Carries out a step on the executors or the runtime. -/
def systemStep : Step → SessionM Answer
  | .serviceId nth method => do
    match (← get).services[nth]? with
    | none => return .refused .noService
    | some service => return (service.id? method).elim .nothing .methodId
  | .run => do
    let before := (← get).engine.manual
    let count ← onEngine (Engine.runManual (Engine.settleAll hooks))
    return .drained before.pending.length count (← get).engine.manual.ran
  | .submit executor labels => do
    needExecutor executor
    for label in labels do
      settleDue (Engine.submit executor (.user ⟨label, []⟩))
    return .submitted (← get).engine.manual.pending.length
  | .pump => do
    if (← get).engine.runtime = .running then
      onEngine (Engine.inContext .currentThread (Engine.pumpRuntime hooks))
      return .nothing
    else
      return .refused .noRuntime
  | .shutdown => do return .flag (← onEngine (Engine.shutdown hooks))
  | .release key reply => do
    if (← get).engine.transport.isSome then
      onEngine (Engine.release key reply)
      return .nothing
    else
      return .refused .noTransport
  | _ => return .nothing

/-- Carries out a step. -/
def step (s : Step) : SessionM Answer := do
  match s, s.client?, s.call? with
  | _, some name, _ =>
    match (← get).clients.lookup name with
    | none => return .refused .noClient
    | some handle => clientStep handle s
  | _, _, some name =>
    match (← get).calls.lookup name with
    | none => return .refused .noCall
    | some call => callStep call s
  | .poll name, _, _ | .drop name, _, _ =>
    match (← get).futures.lookup name with
    | none =>
      return match s with
        | .drop _ => .flag false
        | _ => .refused .noFuture
    | some future => futureStep name future s
  | _, _, _ => systemStep s

/-- Takes the events out, in the order in which they are listed. -/
def takeEvents (s : Step) : SessionM (List Event) := do
  let state ← get
  let events := state.engine.plugins.events.reverse
  onEngine (Engine.onPlugins (modify fun n => { n with events := [] }))
  if state.unordered && s.isConcurrent then
    return events.mergeSort fun a b =>
      match a.label?, b.label? with
      | none, _ => true
      | some _, none => false
      | some x, some y => x ≤ y
  else
    return events

/-- Carries out a step and collects what nobody can reach any more. -/
def stepAndCollect (s : Step) : SessionM (Answer × List Event) := do
  let answer ← step s
  settleDue Engine.collect
  return (answer, ← takeEvents s)

/-- Carries out all steps of a scenario. -/
def runSteps : List Step → SessionM (List (Answer × List Event))
  | [] => return []
  | s :: rest => do
    let result ← stepAndCollect s
    return result :: (← runSteps rest)

/-- Makes the main client and carries out all steps. -/
def session (client : ClientSpec) (steps : List Step) :
    SessionM (Answer × List (Answer × List Event)) := do
  let settings ← changeSettings {} client
  let built ← makeClient "main" settings
  let answers ← runSteps steps
  return (built, answers)

/-- Runs a scenario: the answer to making the main client, and the answers to the steps. -/
def run (client : ClientSpec) (steps : List Step) : Answer × List (Answer × List Event) :=
  (StateT.run (session client steps) {}).1

end RemoteCall.Scenario
