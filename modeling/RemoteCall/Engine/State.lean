import RemoteCall.Call.Await
import RemoteCall.Call.Dispatching
import RemoteCall.Call.Maker
import RemoteCall.Executor.Queue
import RemoteCall.Executor.Ready
import RemoteCall.Method.Plan
import RemoteCall.Registry.Basic

/-!
The state in which methods are called.

An `Engine` holds every call that was made, every await, the queues of the executors, the tasks of
the asynchronous runtime, and the registries of the clients. Callbacks and jobs are data: behind a
callback stands the user or an await, and a job is the user's or a parcel. What is due but not done
yet is a list of `Due` items. The user's callbacks are named by `κ`, and `Hooks` says what
they do.
-/

namespace RemoteCall

/-- Who stands behind a callback. -/
inductive Listener (κ : Type) where
  | user (name : κ)
  /-- Resumes the await with this index. -/
  | resume (await : Nat)

/-- What is handed to an executor. -/
inductive Job (κ : Type) where
  | user (name : κ)
  | deliver (parcel : Parcel (Listener κ))

/-- What the runtime carries out. -/
inductive Task (κ : Type) where
  /-- Runs a wired call and delivers its outcome. -/
  | carry (call : Nat) (delivery : Delivery (Callback (Listener κ)))
  /-- Runs one job. -/
  | job (job : Job κ)
  /-- Works off the serial queue, for ever. -/
  | serial

/-- A call that a call maker has made, or a fresh copy of one. -/
inductive MadeCall (σ κ : Type) where
  /-- `maker` is the number of the maker, none for a copy. -/
  | scripted (maker : Option Nat) (call : ScriptedCall σ (Callback (Listener κ)))
  | wired (call : TransportCall σ (Request → Connection))
  | lossy (request : Request)

/-- The asynchronous runtime. -/
inductive Runtime where
  /-- Nothing has needed it. -/
  | absent
  | running
  | closed
deriving DecidableEq

/-- A client with the registry of its methods. -/
structure ClientHandle (σ κ : Type) where
  client : Client σ κ
  registry : Nat

/-- Where a future stands. -/
inductive FutureStage (σ κ : Type) where
  /-- The method is looked up, and its call made, at the first poll. -/
  | planned (handle : ClientHandle σ κ) (id : MethodId) (args : Arguments) (envelope : Bool)
  /-- The call is there; the await tells how far it is. The future of a method refers to its client
  until the await is over. -/
  | bridged (handle : Option (ClientHandle σ κ)) (call : CallRef) (purpose : Purpose)
    (await : Await)
  /-- It has ended without an await. -/
  | ended

/-- Everything that a client's calls can change. -/
structure Engine (σ κ : Type) where
  /-- The state of the plug-ins. -/
  plugins : σ
  calls : List (MadeCall σ κ) := []
  futures : List (FutureStage σ κ) := []
  registries : List (Registry (MethodEntry σ) (Plan σ κ)) := []
  manual : ManualQueue (Job κ) := {}
  /-- The jobs that the user's own executors hold, with the numbers of the executors. -/
  custom : List (Nat × Job κ) := []
  /-- The serial executor's queue, once there is such an executor. -/
  serial : Option (SerialQueue (Job κ)) := none
  runtime : Runtime := .absent
  /-- The tasks of the runtime with their numbers, in the order of their spawning. -/
  tasks : List (Nat × Task κ) := []
  nextTask : Nat := 0
  /-- The tasks that will be polled. Any other task waits for something that makes it ready. -/
  ready : ReadyQueue := {}
  /-- The transport that was made last. -/
  transport : Option (Request → Connection) := none
  /-- The answers released so far, the latest first. -/
  released : List (String × Reply) := []
  /-- Where the code runs that is being run. -/
  context : Context := .plain
  /-- The calls that the owner of the engine, or a job while it is run, holds on to. -/
  kept : List CallRef := []
  /-- The numbers of the call makers that the owner of the engine holds on to. -/
  keptMakers : List Nat := []

/-- An operation on the engine. -/
abbrev EngineM (σ κ : Type) := StateM (Engine σ κ)

/-- What the user's callbacks and jobs do. -/
structure Hooks (σ κ : Type) where
  /-- The callback hears the outcome of a call. -/
  deliver : κ → CallRef → Outcome → Action σ κ Unit
  /-- The callback or job is dropped. -/
  lose : κ → Action σ κ Unit
  /-- The job is run. -/
  run : κ → Action σ κ Unit

/-- Something that has to be done before the operation that caused it goes on. -/
inductive Due (σ κ : Type) where
  | deliver (callback : Callback (Listener κ)) (call : CallRef) (outcome : Outcome)
  | lose (callback : Callback (Listener κ))
  | run (job : Job κ)
  | discard (job : Job κ)
  | act (action : Action σ κ Unit)
  /-- Goes on with a run of the manual queue until it is empty. -/
  | drain
  /-- Works off the serial queue until it is empty. -/
  | work
  /-- Lets go of the call that an ended job has held. -/
  | release (call : CallRef)

namespace Engine

variable {σ κ α : Type}

/-- Runs something that only concerns the plug-ins. -/
def onPlugins (f : StateM σ α) : EngineM σ κ α := do
  let e ← get
  let (a, s) := f e.plugins
  set { e with plugins := s }
  return a

/-- Replaces the call with the given index. -/
def setCall (index : Nat) (call : MadeCall σ κ) : EngineM σ κ Unit :=
  modify fun e => { e with calls := e.calls.set index call }

/-- Adds a call. -/
def addCall (call : MadeCall σ κ) : EngineM σ κ CallRef := do
  let e ← get
  set { e with calls := e.calls ++ [call] }
  return .made e.calls.length

/-- The answer that a connection has given so far. -/
def answer? (e : Engine σ κ) : Connection → Option Reply
  | .answers reply => some reply
  | .silent => none
  | .held key => (e.released.find? (·.1 == key)).map (·.2)

/-- The answer that a wired call has got so far. -/
def answerTo? (e : Engine σ κ) (call : TransportCall σ (Request → Connection)) : Option Reply :=
  e.answer? (call.transport call.request)

/-- Takes a transport into use. -/
def useTransport (connect : Request → Connection) : EngineM σ κ Unit :=
  modify fun e => { e with transport := some connect }

/-- Makes sure that there is a runtime, unless it was closed. -/
def needRuntime : EngineM σ κ Unit :=
  modify fun e => if e.runtime = .absent then { e with runtime := .running } else e

/-- Who runs the code that is being run. -/
def waker (e : Engine σ κ) : Waker := if e.context = .currentThread then .worker else .outsider

/-- Puts a task at the end of the runtime's list. A new task is ready. -/
def addTask (task : Task κ) : EngineM σ κ Unit :=
  modify fun e => { e with
    tasks := e.tasks ++ [(e.nextTask, task)]
    nextTask := e.nextTask + 1
    ready := e.ready.push e.waker e.nextTask }

/-- Makes the tasks ready that satisfy a condition, the oldest first. -/
def wake (condition : Task κ → Bool) : EngineM σ κ Unit :=
  modify fun e =>
    let numbers := (e.tasks.filter fun t => condition t.2).map (·.1)
    { e with ready := numbers.foldl (·.push e.waker ·) e.ready }

/-- Makes the task that carries a call ready. -/
def wakeCarrier (index : Nat) : EngineM σ κ Unit :=
  wake fun
    | .carry call _ => call == index
    | _ => false

/-- Makes the task of the serial queue ready, if it waits for a job. -/
def wakeSerial : EngineM σ κ Unit := do
  let e ← get
  match e.serial with
  | some q =>
    if q.waiting then
      set { e with serial := some q.wake }
      wake fun
        | .serial => true
        | _ => false
  | none => pure ()

/-- Gives the answer for a key. The tasks that wait for it become ready. -/
def release (key : String) (reply : Reply) : EngineM σ κ Unit := do
  modify fun e => { e with released := (key, reply) :: e.released }
  let e ← get
  wake fun
    | .carry index _ =>
      match e.calls[index]? with
      | some (.wired c) => (c.transport c.request).awaits key
      | _ => false
    | _ => false

/-- Makes sure that there is a serial executor. On a closed runtime its task is gone at once. -/
def needSerial : EngineM σ κ Unit := do
  needRuntime
  let e ← get
  if e.serial.isNone then
    if e.runtime = .running then
      set { e with serial := some {} }
      addTask .serial
    else
      set { e with serial := some { stopped := true } }

/-- Holds on to a call. -/
def keep (call : CallRef) : EngineM σ κ Unit :=
  modify fun e => { e with kept := call :: e.kept }

/-- Holds on to a call one time less. -/
def letGo (call : CallRef) : EngineM σ κ Unit :=
  modify fun e => { e with kept := e.kept.erase call }

/-- Holds on to a call maker. -/
def keepMaker (maker : CallMaker) : EngineM σ κ Unit :=
  modify fun e => { e with
    keptMakers := maker.number?.elim e.keptMakers fun number => number :: e.keptMakers }

/-- Holds on to a call maker one time less. -/
def letGoMaker (maker : CallMaker) : EngineM σ κ Unit :=
  modify fun e => { e with
    keptMakers := maker.number?.elim e.keptMakers fun number => e.keptMakers.erase number }

end Engine

end RemoteCall
