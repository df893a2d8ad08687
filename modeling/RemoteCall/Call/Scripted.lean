import RemoteCall.Factory.Capability

/-!
Scripted calls: calls whose outcome is fixed when they are made.

A scripted call replies, fails, or hangs. A hanging call keeps the callback of its one `enqueue`
until it is canceled or completed from outside. The operations are built from four atomic ones:
`claim` takes the right to run, `settle` is the part of `enqueue` under the lock, `stop` the part of
`cancel` under it, and `unpark` takes the waiting callback out. Delivery comes after them, so it is
left to the caller: the operations return the callback that is due.
-/

namespace RemoteCall

/-- What a scripted call does when it is run. -/
inductive Script where
  | reply (raw : RawResponse)
  | fail (error : TransportError)
  /-- It never ends on its own. -/
  | hang
deriving DecidableEq

/-- A scripted call; `γ` is the type of callbacks. -/
structure ScriptedCall (σ γ : Type) where
  request : Request
  converter : ResponseConverter σ
  script : Script
  executed : Bool := false
  canceled : Bool := false
  /-- The callback that waits for the end of a hanging call. -/
  parked : Option γ := none

namespace ScriptedCall

variable {σ γ : Type}

/-- A fresh call with the same configuration. -/
def fresh (c : ScriptedCall σ γ) : ScriptedCall σ γ :=
  { request := c.request, converter := c.converter, script := c.script }

/-- Takes the right to run. Only the first claim succeeds. -/
def claim (c : ScriptedCall σ γ) : Bool × ScriptedCall σ γ :=
  (!c.executed, { c with executed := true })

/-- The outcome of the script, if it has one. -/
def outcome? (c : ScriptedCall σ γ) : StateM σ (Option Outcome) :=
  match c.script with
  | .reply raw => do return some (← parseResponse c.converter raw)
  | .fail error => pure (some (.error (.transport error)))
  | .hang => pure none

/-- The outcome of a claimed call, or none if the callback now waits. -/
def settle (c : ScriptedCall σ γ) (callback : γ) :
    StateM σ (Option Outcome × ScriptedCall σ γ) := do
  if c.canceled then
    return (some (.error .canceled), c)
  else
    match ← c.outcome? with
    | some outcome => return (some outcome, c)
    | none => return (none, { c with parked := some callback })

/-- Takes the waiting callback. -/
def unpark (c : ScriptedCall σ γ) : Option γ × ScriptedCall σ γ :=
  (c.parked, { c with parked := none })

/-- Marks the call as canceled and takes the waiting callback. -/
def stop (c : ScriptedCall σ γ) : Option γ × ScriptedCall σ γ :=
  ({ c with canceled := true } : ScriptedCall σ γ).unpark

/-- Runs the call on the spot. A hanging call times out. -/
def execute (c : ScriptedCall σ γ) : StateM σ (Outcome × ScriptedCall σ γ) := do
  let (first, c) := c.claim
  if !first then
    return (.error .alreadyExecuted, c)
  else if c.canceled then
    return (.error .canceled, c)
  else
    return ((← c.outcome?).getD (.error (.transport .timeout)), c)

/-- Starts the call. The outcome is due to the callback at once, unless it waits. -/
def enqueue (c : ScriptedCall σ γ) (callback : γ) :
    StateM σ (Option Outcome × ScriptedCall σ γ) := do
  let (first, c) := c.claim
  if !first then
    return (some (.error .alreadyExecuted), c)
  else
    c.settle callback

/-- Ends the wait of a callback with a response: the callback and its outcome, if one waits. -/
def complete (c : ScriptedCall σ γ) (raw : RawResponse) :
    StateM σ (Option (γ × Outcome) × ScriptedCall σ γ) := do
  match c.unpark with
  | (none, c) => return (none, c)
  | (some callback, c) => return (some (callback, ← parseResponse c.converter raw), c)

end ScriptedCall

end RemoteCall
