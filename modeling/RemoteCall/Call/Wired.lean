import RemoteCall.Factory.Capability

/-!
Wired calls: calls that send their request over a transport.

`TransportCall.poll` is one step of the race between the cancellation of the call and the answer of
the transport: cancellation is looked at first, so it wins even over an answer that is there. A task
carries an enqueued callback in a `Delivery` and polls until it has an outcome; if the task is
dropped before, the callback hears `lostToShutdown`.
-/

namespace RemoteCall

/-- What comes back from a transport. -/
abbrev Reply := Except TransportError RawResponse

/-- A call over a transport; `τ` is whatever stands for the transport. -/
structure TransportCall (σ τ : Type) where
  request : Request
  converter : ResponseConverter σ
  transport : τ
  executed : Bool := false
  canceled : Bool := false

/-- What runs the caller: a plain thread, or a worker of an asynchronous runtime. -/
inductive Context where
  | plain
  /-- The only worker of a runtime, which must not be blocked. -/
  | currentThread
  /-- One of several workers. -/
  | multiThread
deriving DecidableEq

/-- The failure of an enqueued call whose task will never run to its end. -/
def lostToShutdown : Error := .transport (.connectionLost "runtime shut down")

/-- The failure of a call that is run on the spot where nobody may block. -/
def blockedHere : Error := .transport (.io "execute called from a current-thread runtime")

/-- Holds the callback of an enqueued call until the outcome is known; `γ` is the type of
callbacks. A callback is taken out when it is called. -/
structure Delivery (γ : Type) where
  callback : Option γ

namespace Delivery

variable {γ : Type}

/-- Calls the callback, if it is still there, and keeps nothing. -/
def deliver (d : Delivery γ) (outcome : Outcome) : List (γ × Outcome) × Delivery γ :=
  (d.callback.toList.map (·, outcome), ⟨none⟩)

/-- What is heard when a delivery is dropped. -/
def drop (d : Delivery γ) : List (γ × Outcome) :=
  d.callback.toList.map (·, .error lostToShutdown)

/-- What is heard when a task has an outcome: it delivers, and drops what is left. -/
def finish (d : Delivery γ) (outcome : Outcome) : List (γ × Outcome) :=
  let (heard, left) := d.deliver outcome
  heard ++ left.drop

end Delivery

namespace TransportCall

variable {σ τ γ : Type}

/-- A fresh call with the same configuration. -/
def fresh (c : TransportCall σ τ) : TransportCall σ τ :=
  { request := c.request, converter := c.converter, transport := c.transport }

/-- Takes the right to run. Only the first claim succeeds. -/
def claim (c : TransportCall σ τ) : Bool × TransportCall σ τ :=
  (!c.executed, { c with executed := true })

/-- Marks the call as canceled. -/
def stop (c : TransportCall σ τ) : TransportCall σ τ := { c with canceled := true }

/-- One step of the run, given what the transport has answered so far. -/
def poll (c : TransportCall σ τ) (answer : Option Reply) : StateM σ (Option Outcome) :=
  if c.canceled then
    pure (some (.error .canceled))
  else
    match answer with
    | none => pure none
    | some (.error error) => pure (some (.error (.transport error)))
    | some (.ok raw) => do return some (← parseResponse c.converter raw)

/-- Starts the call: the delivery that a task has to carry, or what is heard at once. -/
def enqueue (c : TransportCall σ τ) (callback : γ) :
    Except (List (γ × Outcome)) (Delivery γ) × TransportCall σ τ :=
  match c.claim with
  | (true, c) => (.ok ⟨some callback⟩, c)
  | (false, c) => (.error [(callback, .error .alreadyExecuted)], c)

/-- Takes the right to run on the spot; the outcome if it is refused. Where blocking is forbidden
the call keeps its right to run. -/
def claimHere (c : TransportCall σ τ) (context : Context) : Option Outcome × TransportCall σ τ :=
  if context = .currentThread then (some (.error blockedHere), c)
  else
    match c.claim with
    | (true, c) => (none, c)
    | (false, c) => (some (.error .alreadyExecuted), c)

/-- Runs the call on the spot; none, and nothing has happened, if the run would wait for an answer
that never comes. -/
def execute (c : TransportCall σ τ) (context : Context) (answer : Option Reply) :
    StateM σ (Option Outcome × TransportCall σ τ) := do
  match c.claimHere context with
  | (some outcome, c) => return (some outcome, c)
  | (none, claimed) =>
    match ← claimed.poll answer with
    | some outcome => return (some outcome, claimed)
    | none => return (none, c)

end TransportCall

end RemoteCall
