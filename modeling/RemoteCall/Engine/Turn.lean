import RemoteCall.Engine.Calls

/-!
Turns: doing what is due.

`perform` runs an action. `settle` does what is due, in order; what becomes due on the way is done
before the rest, as if each delivery were a call within the operation that caused it. It is a
recursion on the number of turns left, so a callback that starts calls for ever is cut off in the
end. `pump` lets the runtime poll the tasks that are ready until none is left.
-/

namespace RemoteCall.Engine

variable {σ κ α : Type}

/-- Runs the manual queue until it is empty: how many jobs this run has taken. -/
def runManual (settle : List (Due σ κ) → EngineM σ κ Unit) : EngineM σ κ Nat := do
  modify fun e => { e with manual := e.manual.start }
  settle [.drain]
  let e ← get
  let (count, manual) := e.manual.finish
  set { e with manual }
  return count

/-- Runs an action; `settle` does what becomes due at each operation. -/
def perform (settle : List (Due σ κ) → EngineM σ κ Unit) : Action σ κ α → EngineM σ κ α
  | .done value => pure value
  | .read next => do perform settle (next (← get).plugins)
  | .write state next => do
    modify fun e => { e with plugins := state }
    perform settle next
  | .inspect call next => do perform settle (next ((← get).view call))
  | .mayRun call next => do perform settle (next ((← get).mayRun call))
  | .execute call next => do perform settle (next (← executeCall call))
  | .cancel call next => do
    settle (← cancelCall call)
    perform settle next
  | .clone call next => do perform settle (next (← cloneCall call))
  | .enqueue call callback next => do
    settle (← enqueueCall call (.user callback))
    perform settle next
  | .release _ next => do
    settle (← collect)
    perform settle next
  | .submit executor job next => do
    settle (← submit executor (.user job))
    perform settle next
  | .drain next => do perform settle (next (← runManual settle))
  | .takeJob executor run next => do
    match (← get).takeCustom? executor with
    | none => perform settle (next false)
    | some (job, e) =>
      set e
      settle [if run then .run job else .discard job]
      perform settle (next true)

/-- Changes the await of a future. -/
def updateAwait (index : Nat) (f : Await → Await) : EngineM σ κ Unit :=
  modify fun e => { e with futures := e.futures.modify index fun
    | .bridged handle call purpose await => .bridged handle call purpose (f await)
    | stage => stage }

/-- What is due when a callback has been called. -/
def react (hooks : Hooks σ κ) : Reaction (Listener κ) → EngineM σ κ (List (Due σ κ))
  | .tell (.user name) call outcome => return [.act (hooks.deliver name call outcome)]
  | .tell (.resume await) _ outcome => do
    updateAwait await (·.fill outcome)
    return []
  | .submit parcel => submit parcel.executor (.deliver parcel)

/-- Does one thing that is due, and tells what is due next because of it. A job holds on to its call
until it is run or dropped to the end. -/
def expand (hooks : Hooks σ κ) : Due σ κ → EngineM σ κ (List (Due σ κ))
  | .deliver callback call outcome => react hooks (callback.hear call outcome)
  | .lose callback => do
    match callback.last with
    | .user name => return [.act (hooks.lose name)]
    | .resume await =>
      updateAwait await Await.lose
      return []
  | .run (.user name) => return [.act (hooks.run name)]
  | .run (.deliver parcel) => do
    keep parcel.delegate
    let canceled := ((← get).view parcel.delegate).canceled
    return (← react hooks (parcel.unpack canceled)) ++ [.release parcel.delegate]
  | .discard (.user name) => return [.act (hooks.lose name)]
  | .discard (.deliver parcel) => do
    keep parcel.delegate
    return [.lose parcel.callback, .release parcel.delegate]
  | .act action => return [.act action]
  | .drain => do
    let e ← get
    match e.manual.take? with
    | none => return []
    | some (job, q) =>
      set { e with manual := q }
      return [.run job, .drain]
  | .work => do
    let e ← get
    match e.serial.bind (·.pop?) with
    | none =>
      set { e with serial := e.serial.map SerialQueue.wait }
      return []
    | some (job, q) =>
      set { e with serial := some q }
      return [.run job, .work]
  | .release call => do
    letGo call
    collect

/-- Does what is due, in order, for at most the given number of turns. -/
def settle (hooks : Hooks σ κ) : Nat → List (Due σ κ) → EngineM σ κ Unit
  | _, [] => pure ()
  | 0, _ :: _ => pure ()
  | turns + 1, due :: rest => do
    match due with
    | .act action => perform (settle hooks turns) action
    | due => settle hooks turns (← expand hooks due)
    settle hooks turns rest

/-- How many turns an operation may take. -/
def manyTurns : Nat := 1000000

/-- Does all that is due. -/
def settleAll (hooks : Hooks σ κ) (due : List (Due σ κ)) : EngineM σ κ Unit :=
  settle hooks manyTurns due

/-! ### The runtime -/

/-- Removes a task. -/
def removeTask (number : Nat) : EngineM σ κ Unit :=
  modify fun e => { e with tasks := e.tasks.filter (·.1 != number) }

/-- Polls a task: it ends, or waits for something that makes it ready again. -/
def pollTask (hooks : Hooks σ κ) (number : Nat) (task : Task κ) : EngineM σ κ Unit := do
  match task with
  | .carry index delivery =>
    let e ← get
    match e.calls[index]? with
    | some (.wired c) =>
      match ← onPlugins (c.poll (e.answerTo? c)) with
      | none => pure ()
      | some outcome =>
        removeTask number
        settleAll hooks (dueOf index (delivery.finish outcome))
    | _ =>
      removeTask number
      settleAll hooks (dueOf index delivery.drop)
  | .job job =>
    removeTask number
    settleAll hooks [.run job]
  | .serial => settleAll hooks [.work]

/-- Polls the tasks that are ready, and those that become ready on the way, until none is left. -/
def pump (hooks : Hooks σ κ) : Nat → EngineM σ κ Unit
  | 0 => pure ()
  | polls + 1 => do
    let e ← get
    match e.ready.pop? with
    | none => pure ()
    | some (number, ready) =>
      set { e with ready }
      match e.tasks.find? (·.1 == number) with
      | some (_, task) => pollTask hooks number task
      | none => pure ()
      pump hooks polls

/-- Lets the runtime run until nothing moves. A runtime that is not running does nothing. -/
def pumpRuntime (hooks : Hooks σ κ) : EngineM σ κ Unit := do
  if (← get).runtime = .running then pump hooks manyTurns

/-- Runs an operation as the code of the given context. -/
def inContext (context : Context) (f : EngineM σ κ α) : EngineM σ κ α := do
  let before := (← get).context
  modify fun e => { e with context }
  let a ← f
  modify fun e => { e with context := before }
  return a

/-- Drops the runtime with all its tasks; false if there is none to drop. -/
def shutdown (hooks : Hooks σ κ) : EngineM σ κ Bool := do
  let e ← get
  if e.runtime = .running then
    set { e with runtime := .closed, tasks := [], ready := {} }
    inContext .currentThread do
      for (_, task) in e.tasks do
        settleAll hooks (← dropTask task)
    return true
  else
    return false

end RemoteCall.Engine
