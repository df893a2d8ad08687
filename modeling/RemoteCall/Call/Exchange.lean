import RemoteCall.Call.Dispatching

/-!
Callbacks on their way through wrappers and executors.

In an `Exchange` callbacks are enqueued on calls, wrapped as often as one likes. What the made calls
and the executors do is left open: a made call may call the callback that it was given with any
outcome at any time or drop it, it may become canceled and, for all that is said here, cease to be
so, and an executor may open each parcel at any time or drop it. An operation is named by its number
in the order of the starts, and so is its callback.
-/

namespace RemoteCall

/-- Where the callback of an operation is. -/
inductive Place where
  /-- The made call has it, with the relays around it. -/
  | waiting (callback : Callback Nat)
  /-- An executor has it in a parcel. -/
  | handed (parcel : Parcel Nat)
  /-- It was called. -/
  | told
  /-- It was dropped. -/
  | lost

/-- An operation that has enqueued a callback on a call. -/
structure Enqueued where
  call : CallRef
  place : Place

/-- What a listener was told, and inside a job of which executor. -/
structure Hearing where
  call : CallRef
  outcome : Outcome
  within : Option Executor

/-- A parcel that was opened. -/
structure Opening where
  executor : Executor
  /-- Whether the delegate was canceled then. -/
  canceled : Bool

/-- Callbacks on their way. The logs have the number of the operation or of the listener with each
entry, the latest first. -/
structure Exchange where
  /-- Which of the made calls are canceled. -/
  canceled : Nat → Bool := fun _ => false
  /-- The operations, the latest last. -/
  ops : List Enqueued := []
  /-- The outcomes that made calls have called callbacks with. -/
  completed : List (Nat × Outcome) := []
  /-- The executors that were handed parcels. -/
  handed : List (Nat × Executor) := []
  opened : List (Nat × Opening) := []
  heard : List (Nat × Hearing) := []

/-- What may happen next. -/
inductive ExchangeStep where
  | enqueue (call : CallRef)
  /-- A call becomes canceled, or ceases to be so. -/
  | mark (call : CallRef) (canceled : Bool)
  /-- The made call of an operation calls its callback. -/
  | complete (number : Nat) (outcome : Outcome)
  /-- The executor that has the parcel of an operation opens it. -/
  | run (number : Nat)
  /-- Whoever has the callback of an operation drops it. -/
  | lose (number : Nat)

namespace Exchange

/-- Whether a call is canceled: a wrapper is if its delegate is. -/
def isCanceled (x : Exchange) (call : CallRef) : Bool := x.canceled call.innermost

/-- Puts the callback of an operation elsewhere. -/
def put (x : Exchange) (number : Nat) (place : Place) : Exchange :=
  { x with ops := x.ops.modify number fun op => { op with place } }

/-- What comes of calling the callback of an operation inside a job of `within`. -/
def react (x : Exchange) (number : Nat) (within : Option Executor) : Reaction Nat → Exchange
  | .tell listener call outcome =>
    { x.put number .told with heard := (listener, ⟨call, outcome, within⟩) :: x.heard }
  | .submit parcel =>
    { x.put number (.handed parcel) with handed := (number, parcel.executor) :: x.handed }

/-- The atomic steps; none where a step is not enabled. -/
def step? (x : Exchange) : ExchangeStep → Option Exchange
  | .enqueue call =>
    some { x with ops := x.ops ++ [⟨call, .waiting (call.relayed (.listener x.ops.length))⟩] }
  | .mark call canceled =>
    some { x with
      canceled := fun index => if index = call.innermost then canceled else x.canceled index }
  | .complete number outcome =>
    match x.ops[number]? with
    | some ⟨call, .waiting callback⟩ =>
      let completed := { x with completed := (number, outcome) :: x.completed }
      some (completed.react number none (callback.hear (.made call.innermost) outcome))
    | _ => none
  | .run number =>
    match x.ops[number]? with
    | some ⟨_, .handed parcel⟩ =>
      let canceled := x.isCanceled parcel.delegate
      let opened := { x with opened := (number, ⟨parcel.executor, canceled⟩) :: x.opened }
      some (opened.react number (some parcel.executor) (parcel.unpack canceled))
    | _ => none
  | .lose number =>
    match x.ops[number]? with
    | some ⟨_, .waiting _⟩ => some (x.put number .lost)
    | some ⟨_, .handed _⟩ => some (x.put number .lost)
    | _ => none

end Exchange

end RemoteCall
