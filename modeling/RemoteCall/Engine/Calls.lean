import RemoteCall.Engine.State

/-!
Operations on calls.

A call is either one that was made, or a wrapper around a call; an operation on a wrapper is the
operation on its delegate, except that `enqueue` puts a relay around the callback. No operation here
runs a callback: what has to be delivered is returned as a list of `Due` items.
-/

namespace RemoteCall.Engine

variable {σ κ : Type}

/-! ### Looking -/

/-- What can be seen of a made call. -/
def viewMade : MadeCall σ κ → CallView
  | .scripted _ c => ⟨c.request, c.canceled, c.executed⟩
  | .wired c => ⟨c.request, c.canceled, c.executed⟩
  | .lossy request => ⟨request, false, false⟩

/-- What can be seen of a call: a wrapper looks like its delegate. -/
def view (e : Engine σ κ) (call : CallRef) : CallView :=
  (e.calls[call.innermost]?.map viewMade).getD ⟨⟨.get, "", [], none⟩, false, false⟩

/-- Whether a callback waits on a made call. -/
def isParked (e : Engine σ κ) (index : Nat) : Bool :=
  match e.calls[index]? with
  | some (.scripted _ c) => c.parked.isSome
  | _ => false

/-! ### Making -/

/-- A fresh call for a request. -/
def newCall (maker : CallMaker) (request : Request) (converter : ResponseConverter σ) :
    EngineM σ κ CallRef :=
  match maker with
  | .scripted number respond =>
    addCall (.scripted (some number) { request, converter, script := respond request })
  | .wired connect => addCall (.wired { request, converter, transport := connect })
  | .lossy => addCall (.lossy request)

/-- A fresh copy of a made call. -/
def copyMade : MadeCall σ κ → MadeCall σ κ
  | .scripted _ c => .scripted none c.fresh
  | .wired c => .wired c.fresh
  | .lossy request => .lossy request

/-- A fresh call with the configuration of a call, wrappers included. -/
def cloneCall : CallRef → EngineM σ κ CallRef
  | .made index => do
    match (← get).calls[index]? with
    | some call => addCall (copyMade call)
    | none => return .made index
  | .dispatching executor delegate => do
    return .dispatching executor (← cloneCall delegate)

/-! ### Jobs and tasks -/

/-- Ends the serial queue: its jobs will not be run. -/
def stopSerial : EngineM σ κ (List (Due σ κ)) := do
  let e ← get
  match e.serial with
  | none => return []
  | some q =>
    let (jobs, q) := q.stop
    set { e with serial := some q }
    return jobs.map .discard

/-- The deliveries that are due when callbacks of a made call hear their outcomes. -/
def dueOf (call : Nat) (heard : List (Callback (Listener κ) × Outcome)) : List (Due σ κ) :=
  heard.map fun (callback, outcome) => .deliver callback (.made call) outcome

/-- What becomes of a task that the runtime will not carry out. -/
def dropTask : Task κ → EngineM σ κ (List (Due σ κ))
  | .carry call delivery => return dueOf call delivery.drop
  | .job job => return [.discard job]
  | .serial => stopSerial

/-- Hands a task to the runtime. One that is not running drops it. -/
def spawn (task : Task κ) : EngineM σ κ (List (Due σ κ)) := do
  if (← get).runtime = .running then
    addTask task
    return []
  else
    dropTask task

/-- Hands a job to an executor. -/
def submit (executor : Executor) (job : Job κ) : EngineM σ κ (List (Due σ κ)) := do
  match executor with
  | .inline => return [.run job]
  | .discarding => return [.discard job]
  | .manual =>
    modify fun e => { e with manual := e.manual.push job }
    return []
  | .serial =>
    let e ← get
    match e.serial.bind (·.push? job) with
    | some q =>
      set { e with serial := some q }
      wakeSerial
      return []
    | none => return [.discard job]
  | .concurrent => spawn (.job job)
  | .custom number =>
    modify fun e => { e with custom := e.custom ++ [(number, job)] }
    return []

/-- Takes the first job that one of the user's own executors holds. -/
def takeCustom? (e : Engine σ κ) (number : Nat) : Option (Job κ × Engine σ κ) := do
  let index ← e.custom.findIdx? (·.1 == number)
  let (_, job) ← e.custom[index]?
  return (job, { e with custom := e.custom.eraseIdx index })

/-! ### Running and stopping -/

/-- Whether a call can be run on the spot without the danger of waiting for ever. There is none
where waiting is forbidden, and none for a call that would fail at once; else the latest transport,
if there is one, has to have an answer for the request. -/
def mayRun (e : Engine σ κ) (call : CallRef) : Bool :=
  let seen := e.view call
  e.context = .currentThread || seen.canceled || seen.executed ||
    e.transport.all fun connect => (e.answer? (connect seen.request)).isSome

/-- Runs a call on the spot; none if that would never end. -/
def executeCall (call : CallRef) : EngineM σ κ (Option Outcome) := do
  let e ← get
  match e.calls[call.innermost]? with
  | some (.scripted maker c) =>
    let (outcome, c) ← onPlugins c.execute
    setCall call.innermost (.scripted maker c)
    return some outcome
  | some (.wired c) =>
    let (outcome, c) ← onPlugins (c.execute e.context (e.answerTo? c))
    setCall call.innermost (.wired c)
    return outcome
  | some (.lossy _) => return some (.error (.transport .timeout))
  | none => return none

/-- Runs a call on the spot if it can be run so without danger. -/
def tryExecuteCall (call : CallRef) : EngineM σ κ (Option Outcome) := do
  if (← get).mayRun call then executeCall call else return none

/-- Starts a made call. -/
def enqueueMade (index : Nat) (callback : Callback (Listener κ)) :
    EngineM σ κ (List (Due σ κ)) := do
  match (← get).calls[index]? with
  | some (.scripted maker c) =>
    let (outcome, c) ← onPlugins (c.enqueue callback)
    setCall index (.scripted maker c)
    return outcome.elim [] fun o => [.deliver callback (.made index) o]
  | some (.wired c) =>
    let (started, c) := c.enqueue callback
    setCall index (.wired c)
    match started with
    | .ok delivery => spawn (.carry index delivery)
    | .error heard => return dueOf index heard
  | some (.lossy _) => return [.lose callback]
  | none => return [.lose callback]

/-- Starts a call whose outcome goes to a listener. Each wrapper relays it over its executor. -/
def enqueueCall (call : CallRef) (listener : Listener κ) : EngineM σ κ (List (Due σ κ)) :=
  enqueueMade call.innermost (call.relayed (.listener listener))

/-- Cancels a call. -/
def cancelCall (call : CallRef) : EngineM σ κ (List (Due σ κ)) := do
  let index := call.innermost
  match (← get).calls[index]? with
  | some (.scripted maker c) =>
    let (parked, c) := c.stop
    setCall index (.scripted maker c)
    return parked.elim [] fun callback => [.deliver callback (.made index) (.error .canceled)]
  | some (.wired c) =>
    setCall index (.wired c.stop)
    wakeCarrier index
    return []
  | _ => return []

/-- Completes a hanging call with a response; it tells whether a callback was waiting. -/
def completeCall (index : Nat) (raw : RawResponse) : EngineM σ κ (Bool × List (Due σ κ)) := do
  match (← get).calls[index]? with
  | some (.scripted maker c) =>
    let (ended, c) ← onPlugins (c.complete raw)
    setCall index (.scripted maker c)
    match ended with
    | none => return (false, [])
    | some (callback, outcome) => return (true, [.deliver callback (.made index) outcome])
  | _ => return (false, [])

/-! ### Calls that nobody can reach -/

/-- The call that a job refers to. -/
def Job.call? : Job κ → Option CallRef
  | .user _ => none
  | .deliver parcel => some parcel.delegate

/-- The call that a task refers to. -/
def Task.call? : Task κ → Option CallRef
  | .carry call _ => some (.made call)
  | .job job => Job.call? job
  | .serial => none

/-- The call that a future refers to. -/
def FutureStage.call? : FutureStage σ κ → Option CallRef
  | .bridged _ call _ await => if await.isOpen then some call else none
  | _ => none

/-- The client that a future refers to. -/
def FutureStage.client? : FutureStage σ κ → Option (Client σ κ)
  | .planned handle .. => some handle.client
  | .bridged (some handle) _ _ await => if await.isOpen then some handle.client else none
  | _ => none

/-- The calls that something refers to: the owner, a future, a job or a task. -/
def reachable (e : Engine σ κ) : List CallRef :=
  e.kept ++ e.futures.filterMap FutureStage.call? ++ e.manual.pending.filterMap Job.call? ++
    e.custom.filterMap (fun held => Job.call? held.2) ++
    (e.serial.elim [] fun q => q.pending.filterMap Job.call?) ++
    e.tasks.filterMap fun t => Task.call? t.2

/-- The call makers that something refers to: the owner, or the client of a future. -/
def reachableMakers (e : Engine σ κ) : List Nat :=
  e.keptMakers ++
    e.futures.filterMap fun f => (FutureStage.client? f).bind fun c => c.calls.number?

/-- Whether a made call can still be reached, be it by way of the maker that keeps it. -/
def isReachable (e : Engine σ κ) (index : Nat) : Bool :=
  (e.reachable.map CallRef.innermost).contains index ||
    match e.calls[index]? with
    | some (.scripted (some maker) _) => e.reachableMakers.contains maker
    | _ => false

/-- The callback that waits on a call and goes when the call goes. A relay refers to its own call
and so keeps it alive. -/
def loosely? : MadeCall σ κ → Option (Callback (Listener κ))
  | .scripted _ c =>
    match c.parked with
    | some (.relay ..) => none
    | parked => parked
  | _ => none

/-- Takes the callbacks that wait on calls nobody can reach any more, those of older calls first. -/
def collect : EngineM σ κ (List (Due σ κ)) := do
  let e ← get
  let waiting := e.calls.zipIdx.filterMap fun (call, index) => (loosely? call).map (index, ·)
  let lost := waiting.filter fun w => !e.isReachable w.1
  for (index, _) in lost do
    match (← get).calls[index]? with
    | some (.scripted maker c) => setCall index (.scripted maker c.unpark.2)
    | _ => pure ()
  return lost.map fun l => .lose l.2

end RemoteCall.Engine
