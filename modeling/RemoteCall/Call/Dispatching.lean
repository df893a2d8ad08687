import RemoteCall.Response

/-!
Dispatching: what becomes of an outcome on its way over executors.

A wrapper puts a relay around each callback. The relay hands the outcome of the wrapper's delegate
to an executor as one `Parcel`; when the executor opens the parcel it looks once more whether the
delegate was canceled, and then a success is not delivered any more. A failure is delivered as it
is. Behind all relays stands a listener of type `γ`.
-/

namespace RemoteCall

/-- The outcome that is delivered when a parcel is opened. -/
def deliverable (canceled : Bool) : Outcome → Outcome
  | .ok envelope => if canceled then .error .canceled else .ok envelope
  | .error error => .error error

@[simp] theorem deliverable_false (outcome : Outcome) : deliverable false outcome = outcome := by
  cases outcome <;> rfl

/-- Who hears the outcome of a call. -/
inductive Callback (γ : Type) where
  | listener (listener : γ)
  /-- Hands the outcome to an executor; `inner` then hears it as an outcome of the wrapper. -/
  | relay (executor : Executor) (delegate : CallRef) (inner : Callback γ)

/-- An outcome of `delegate` on its way over an executor. -/
structure Parcel (γ : Type) where
  executor : Executor
  delegate : CallRef
  callback : Callback γ
  outcome : Outcome

/-- What happens when a callback is called. -/
inductive Reaction (γ : Type) where
  /-- The listener is told the outcome of a call. -/
  | tell (listener : γ) (call : CallRef) (outcome : Outcome)
  /-- The executor of the parcel is given the parcel. -/
  | submit (parcel : Parcel γ)

variable {γ : Type}

namespace Callback

/-- Who stands behind all relays. -/
def last : Callback γ → γ
  | listener g => g
  | relay _ _ inner => inner.last

/-- The callback is called with the outcome of a call. -/
def hear : Callback γ → CallRef → Outcome → Reaction γ
  | listener g, call, outcome => .tell g call outcome
  | relay executor delegate inner, _, outcome => .submit ⟨executor, delegate, inner, outcome⟩

end Callback

namespace Parcel

/-- The call whose outcome the callback hears. -/
def wrapper (p : Parcel γ) : CallRef := .dispatching p.executor p.delegate

/-- The executor opens the parcel; `canceled` tells whether the delegate is canceled now. -/
def unpack (p : Parcel γ) (canceled : Bool) : Reaction γ :=
  p.callback.hear p.wrapper (deliverable canceled p.outcome)

end Parcel

/-- The callback that the innermost call is given when a callback is enqueued on a call: each
wrapper on the way puts a relay around it. -/
def CallRef.relayed : CallRef → Callback γ → Callback γ
  | made _, callback => callback
  | dispatching executor delegate, callback => delegate.relayed (.relay executor delegate callback)

end RemoteCall
