import RemoteCall.Engine.Calls

/-!
Calls, their copies, and those who use them.

A `Population` holds made calls, reached by way of wrappers nested as deep as one likes, and what
is on its way from them: the tasks that carry wired calls, the callers who wait for one, and the
parcels that executors hold. `Population.step?` makes an operation on a call as a whole. Listeners
are told their outcomes with it; the executors and the runtime go on in steps of their own, in any
order. What a listener does when it is told is a further step.
-/

namespace RemoteCall

variable {σ κ : Type}

/-- An operation on a call; `γ` is the type of callbacks. -/
inductive CallOp (γ : Type) where
  /-- Runs the call on the spot, as code of the given context. -/
  | execute (context : Context)
  | enqueue (callback : γ)
  | cancel
  /-- Completes a hanging call. -/
  | complete (raw : RawResponse)

/-- An operation on a call as its innermost call gets it. -/
def CallOp.through (call : CallRef) : CallOp (Listener κ) → CallOp (Callback (Listener κ))
  | execute context => execute context
  | enqueue listener => enqueue (call.relayed (.listener listener))
  | cancel => cancel
  | complete raw => complete raw

/-- What an operation comes to, besides what becomes of the call. -/
inductive Upshot (κ : Type) where
  | returns (outcome : Outcome)
  /-- The caller waits for the outcome. -/
  | blocks
  /-- These callbacks hear these outcomes. -/
  | calls (heard : List (Callback (Listener κ) × Outcome))
  /-- A task is to carry the callback. -/
  | carries (delivery : Delivery (Callback (Listener κ)))
  | loses (callback : Callback (Listener κ))

/-- An operation on a made call; none if such a call does not have it. -/
def MadeCall.operate : MadeCall σ κ → CallOp (Callback (Listener κ)) →
    StateM σ (Option (Upshot κ × MadeCall σ κ))
  | .scripted maker c, .execute _ => do
    let (outcome, c) ← c.execute
    return some (.returns outcome, .scripted maker c)
  | .scripted maker c, .enqueue callback => do
    let (outcome?, c) ← c.enqueue callback
    return some (.calls (outcome?.map (callback, ·)).toList, .scripted maker c)
  | .scripted maker c, .cancel =>
    let (parked, c) := c.stop
    return some (.calls (parked.map (·, .error .canceled)).toList, .scripted maker c)
  | .scripted maker c, .complete raw => do
    let (ended, c) ← c.complete raw
    return some (.calls ended.toList, .scripted maker c)
  | .wired c, .execute context =>
    match c.claimHere context with
    | (some outcome, c) => return some (.returns outcome, .wired c)
    | (none, c) => return some (.blocks, .wired c)
  | .wired c, .enqueue callback =>
    match c.enqueue callback with
    | (.ok delivery, c) => return some (.carries delivery, .wired c)
    | (.error heard, c) => return some (.calls heard, .wired c)
  | .wired c, .cancel => return some (.calls [], .wired c.stop)
  | .wired _, .complete _ => return none
  | .lossy request, .execute _ =>
    return some (.returns (.error (.transport .timeout)), .lossy request)
  | .lossy request, .enqueue callback => return some (.loses callback, .lossy request)
  | .lossy request, .cancel => return some (.calls [], .lossy request)
  | .lossy _, .complete _ => return none

/-- Made calls, and what is on its way from them. -/
structure Population (σ κ : Type) where
  /-- The state of the plug-ins. -/
  plugins : σ
  calls : List (MadeCall σ κ) := []
  /-- The tasks that carry callbacks, each with the number of its call. -/
  tasks : List (Nat × Delivery (Callback (Listener κ))) := []
  /-- The calls that somebody runs on the spot, waiting for the end. -/
  blocked : List CallRef := []
  /-- What the executors hold. -/
  parcels : List (Parcel (Listener κ)) := []
  /-- What listeners were told, the latest first. -/
  told : List (Listener κ × CallRef × Outcome) := []
  /-- What running a call on the spot has returned, the latest first. -/
  returned : List (CallRef × Outcome) := []
  /-- Whose callbacks were dropped, the latest first. -/
  lost : List (Listener κ) := []

/-- What may happen next. -/
inductive PopulationStep (σ κ : Type) where
  | operate (call : CallRef) (op : CallOp (Listener κ))
  | clone (call : CallRef)
  /-- An executor opens a parcel. -/
  | unpack (parcel : Nat)
  /-- An executor drops a parcel. -/
  | discard (parcel : Nat)
  /-- The runtime polls a task, given what the transport has answered so far. -/
  | poll (task : Nat) (answer : Option Reply)
  /-- The runtime, shut down, drops a task. -/
  | drop (task : Nat)
  /-- Somebody who runs a call on the spot polls it. -/
  | wait (caller : Nat) (answer : Option Reply)
  /-- The state of the plug-ins changes for any other reason. -/
  | plugins (state : σ)

namespace Population

/-- What comes of calling a callback. -/
def react (s : Population σ κ) : Reaction (Listener κ) → Population σ κ
  | .tell listener call outcome => { s with told := (listener, call, outcome) :: s.told }
  | .submit parcel => { s with parcels := s.parcels ++ [parcel] }

/-- Callbacks of a made call hear their outcomes. -/
def hear (s : Population σ κ) (index : Nat) (heard : List (Callback (Listener κ) × Outcome)) :
    Population σ κ :=
  heard.foldl (fun s (callback, outcome) => s.react (callback.hear (.made index) outcome)) s

/-- What is due after an operation on a call. -/
def settle (s : Population σ κ) (call : CallRef) : Upshot κ → Population σ κ
  | .returns outcome => { s with returned := (call, outcome) :: s.returned }
  | .blocks => { s with blocked := s.blocked ++ [call] }
  | .calls heard => s.hear call.innermost heard
  | .carries delivery => { s with tasks := s.tasks ++ [(call.innermost, delivery)] }
  | .loses callback => { s with lost := callback.last :: s.lost }

/-- An operation on a call: its innermost call carries it out. -/
def operate? (s : Population σ κ) (call : CallRef) (op : CallOp (Listener κ)) :
    Option (Population σ κ) :=
  s.calls[call.innermost]?.bind fun c =>
    let (result, plugins) := (c.operate (op.through call)).run s.plugins
    result.map fun (upshot, c) =>
      { s with plugins, calls := s.calls.set call.innermost c }.settle call upshot

/-- A fresh call with the configuration of a call. A wrapper has its delegate copied. -/
def clone? (s : Population σ κ) : CallRef → Option (CallRef × Population σ κ)
  | .made index =>
    s.calls[index]?.map fun c =>
      (.made s.calls.length, { s with calls := s.calls ++ [Engine.copyMade c] })
  | .dispatching executor delegate =>
    (s.clone? delegate).map fun (copy, s) => (.dispatching executor copy, s)

/-- One step of the run of a wired call. -/
def poll? (s : Population σ κ) (index : Nat) (answer : Option Reply) :
    Option (Option Outcome × Population σ κ) :=
  match s.calls[index]? with
  | some (.wired c) =>
    let (outcome, plugins) := (c.poll answer).run s.plugins
    some (outcome, { s with plugins })
  | _ => none

/-- Whether a call is canceled: a wrapper is if its delegate is. -/
def isCanceled (s : Population σ κ) (call : CallRef) : Bool :=
  (s.calls[call.innermost]?.map fun c => (Engine.viewMade c).canceled).getD false

/-- What may happen, one after the other; none where a step is not enabled. -/
def step? (s : Population σ κ) : PopulationStep σ κ → Option (Population σ κ)
  | .operate call op => s.operate? call op
  | .clone call => (s.clone? call).map (·.2)
  | .unpack index =>
    s.parcels[index]?.map fun parcel =>
      { s with parcels := s.parcels.eraseIdx index }.react
        (parcel.unpack (s.isCanceled parcel.delegate))
  | .discard index =>
    s.parcels[index]?.map fun parcel =>
      { s with parcels := s.parcels.eraseIdx index, lost := parcel.callback.last :: s.lost }
  | .poll index answer =>
    s.tasks[index]?.bind fun (call, delivery) =>
      (s.poll? call answer).map fun
        | (none, s) => s
        | (some outcome, s) =>
          { s with tasks := s.tasks.eraseIdx index }.hear call (delivery.finish outcome)
  | .drop index =>
    s.tasks[index]?.map fun (call, delivery) =>
      { s with tasks := s.tasks.eraseIdx index }.hear call delivery.drop
  | .wait index answer =>
    s.blocked[index]?.bind fun call =>
      (s.poll? call.innermost answer).map fun
        | (none, s) => s
        | (some outcome, s) =>
          { s with blocked := s.blocked.eraseIdx index, returned := (call, outcome) :: s.returned }
  | .plugins state => some { s with plugins := state }

end Population

end RemoteCall
