import RemoteCall.Call.Wired

/-!
A wired call with everything around it that can move.

A `Line` is one wired call, the operations that were started on it, the tasks that carry enqueued
callbacks, the callers who block until their run ends, and the answer of the transport once it is
there. `Line.step?` has the atomic steps: the operations of `TransportCall` and `Delivery`, in any
order that callers, the transport and the runtime may choose. An operation is named by its number in
the order of the starts, and the callback of an `enqueue` by the number of the operation. A task is
handed to the runtime in a step of its own, and a runtime that shuts down drops its tasks one after
the other.
-/

namespace RemoteCall

/-- An operation that wants to run the call. -/
inductive LineOp where
  | enqueue
  | execute (context : Context)
deriving DecidableEq

/-- Whether an operation asks for the right to run. It does not where it must not block. -/
def LineOp.claims : LineOp → Bool
  | enqueue => true
  | execute context => context != .currentThread

/-- One wired call and everything around it. -/
structure Line (σ τ : Type) where
  /-- The state of the plug-ins. -/
  plugins : σ
  call : TransportCall σ τ
  /-- The answer of the transport, once it is there. -/
  answer : Option Reply := none
  /-- Whether the runtime takes tasks. -/
  running : Bool := true
  /-- The operations that were started, the latest last. -/
  ops : List LineOp := []
  /-- The tasks that are made but not handed to the runtime yet. -/
  unspawned : List (Delivery Nat) := []
  tasks : List (Delivery Nat) := []
  /-- The operations that run on the spot and wait for the end. -/
  blocked : List Nat := []
  /-- What callbacks have heard, the latest first. -/
  heard : List (Nat × Outcome) := []
  /-- What operations that run on the spot have returned, the latest first. -/
  returned : List (Nat × Outcome) := []
  /-- The operations on the spot that have ended in a panic. -/
  panicked : List Nat := []
  /-- The operations on whose behalf the transport was polled, once for each poll. -/
  asked : List Nat := []

/-- What may happen next. -/
inductive LineStep (σ : Type) where
  /-- Starts the call with a callback. -/
  | enqueue
  /-- Hands a task to the runtime. -/
  | spawn (index : Nat)
  /-- The runtime polls a task. -/
  | poll (index : Nat)
  /-- The transport or the converter panics while a task is polled. -/
  | panic (index : Nat)
  /-- The runtime, shut down, drops a task. -/
  | drop (index : Nat)
  /-- Runs the call on the spot, as code of the given context. -/
  | execute (context : Context)
  /-- Somebody who runs the call on the spot polls it. -/
  | wait (index : Nat)
  /-- The transport or the converter panics in a run on the spot. -/
  | unwind (index : Nat)
  | cancel
  /-- The transport has an answer. It gives one at most. -/
  | answer (reply : Reply)
  | shutdown
  /-- The state of the plug-ins changes for any other reason. -/
  | plugins (state : σ)

namespace Line

variable {σ τ : Type}

/-- A fresh call, and nothing has happened yet. -/
def start (plugins : σ) (call : TransportCall σ τ) : Line σ τ := { plugins, call := call.fresh }

/-- Polls the run on behalf of the operations with the given numbers. The transport is polled unless
the call is canceled. -/
def look (l : Line σ τ) (numbers : List Nat) : Option Outcome × Line σ τ :=
  let (outcome, plugins) := l.call.poll l.answer l.plugins
  (outcome, { l with plugins, asked := if l.call.canceled then l.asked else numbers ++ l.asked })

/-- Takes a task away; its callback hears what is left to hear when a task is dropped. -/
def dropTask (l : Line σ τ) (index : Nat) (delivery : Delivery Nat) : Line σ τ :=
  { l with tasks := l.tasks.eraseIdx index, heard := delivery.drop ++ l.heard }

/-- The atomic steps; none where a step is not enabled. -/
def step? (l : Line σ τ) : LineStep σ → Option (Line σ τ)
  | .enqueue =>
    let (started, call) := l.call.enqueue l.ops.length
    let called : Line σ τ := { l with call, ops := l.ops ++ [.enqueue] }
    match started with
    | .ok delivery => some { called with unspawned := l.unspawned ++ [delivery] }
    | .error heard => some { called with heard := heard ++ l.heard }
  | .spawn index =>
    match l.unspawned[index]? with
    | none => none
    | some delivery =>
      let taken : Line σ τ := { l with unspawned := l.unspawned.eraseIdx index }
      if l.running then some { taken with tasks := l.tasks ++ [delivery] }
      else some { taken with heard := delivery.drop ++ l.heard }
  | .poll index =>
    match l.tasks[index]? with
    | none => none
    | some delivery =>
      match l.look delivery.callback.toList with
      | (none, looked) => some looked
      | (some outcome, looked) =>
        some { looked with
          tasks := l.tasks.eraseIdx index
          heard := delivery.finish outcome ++ l.heard }
  | .panic index =>
    match l.tasks[index]? with
    | none => none
    | some delivery =>
      if l.call.canceled then none
      else some { l.dropTask index delivery with asked := delivery.callback.toList ++ l.asked }
  | .drop index =>
    match l.tasks[index]? with
    | none => none
    | some delivery => if l.running then none else some (l.dropTask index delivery)
  | .execute context =>
    let (refused, call) := l.call.claimHere context
    let called : Line σ τ := { l with call, ops := l.ops ++ [.execute context] }
    match refused with
    | some outcome => some { called with returned := (l.ops.length, outcome) :: l.returned }
    | none => some { called with blocked := l.blocked ++ [l.ops.length] }
  | .wait index =>
    match l.blocked[index]? with
    | none => none
    | some number =>
      match l.look [number] with
      | (none, looked) => some looked
      | (some outcome, looked) =>
        some { looked with
          blocked := l.blocked.eraseIdx index
          returned := (number, outcome) :: l.returned }
  | .unwind index =>
    match l.blocked[index]? with
    | none => none
    | some number =>
      if l.call.canceled then none
      else some { l with
        blocked := l.blocked.eraseIdx index
        panicked := number :: l.panicked
        asked := number :: l.asked }
  | .cancel => some { l with call := l.call.stop }
  | .answer reply => if l.answer.isSome then none else some { l with answer := some reply }
  | .shutdown => some { l with running := false }
  | .plugins state => some { l with plugins := state }

end Line

end RemoteCall
