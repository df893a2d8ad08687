import RemoteCall.Call.Scripted

/-!
A scripted call with the operations that are being made on it.

In a `Scene` any number of operations on one scripted call are under way, each at a `SceneStage` of
its own. `Scene.step?` has the atomic steps: `claim`, the sections `settle`, `stop` and `unpark`
under the lock, the look at the cancellation, the run of the script, and the delivery that comes
after a section. Who goes next is free. A converter or a callback may panic, which ends the
operation that has called it; a callback that the operation had in its hands is then lost. An
operation is named by its number in the order of the starts, and the callback of an `enqueue` by the
number of the operation.
-/

namespace RemoteCall

/-- Whether the script has the converter called. -/
def Script.parses : Script → Bool
  | reply _ => true
  | fail _ | hang => false

/-- An operation on a scripted call. -/
inductive SceneOp where
  | enqueue (callback : Nat)
  | execute
  | cancel
  | complete (raw : RawResponse)
deriving DecidableEq

/-- What an operation gives to its caller. -/
inductive SceneResult where
  | done
  | outcome (outcome : Outcome)
  /-- Whether a callback was waiting. -/
  | waited (there : Bool)

/-- How far an operation is. -/
inductive SceneStage where
  | begun
  /-- It has got the right to run. -/
  | claimed
  /-- It has found the call not canceled, and is to run the script on the spot. -/
  | checked
  /-- It has taken a callback for which there is no outcome yet. -/
  | holding (callback : Nat)
  /-- It is to call a callback with an outcome. -/
  | telling (callback : Nat) (outcome : Outcome)
  | returned (result : SceneResult)
  | panicked

/-- What an operation returns after it has called a callback. -/
def SceneOp.result : SceneOp → SceneResult
  | complete _ => .waited true
  | _ => .done

/-- One scripted call and the operations on it. -/
structure Scene (σ : Type) where
  /-- The state of the plug-ins. -/
  plugins : σ
  call : ScriptedCall σ Nat
  /-- The operations that were started, the latest last. -/
  ops : List (SceneOp × SceneStage) := []
  /-- The operations that have asked for the right to run, the latest first. -/
  asked : List Nat := []
  /-- The callbacks that were left waiting, the latest first. -/
  parked : List Nat := []
  /-- Which operations have taken which waiting callbacks, the latest first. -/
  taken : List (Nat × Nat) := []
  /-- What callbacks have heard, the latest first. -/
  heard : List (Nat × Outcome) := []
  /-- The callbacks that were lost in a panic. -/
  lost : List Nat := []

/-- What may happen next. -/
inductive SceneStep (σ : Type) where
  | enqueue
  | execute
  | cancel
  | complete (raw : RawResponse)
  /-- An operation goes on to its next stage. -/
  | advance (number : Nat)
  /-- A converter or a callback panics that an operation has called. -/
  | unwind (number : Nat)
  /-- The state of the plug-ins changes for any other reason. -/
  | plugins (state : σ)

namespace Scene

variable {σ : Type}

/-- A fresh call, and nothing has happened yet. -/
def start (plugins : σ) (call : ScriptedCall σ Nat) : Scene σ := { plugins, call := call.fresh }

/-- Starts an operation. -/
def begin (s : Scene σ) (op : SceneOp) : Scene σ := { s with ops := s.ops ++ [(op, .begun)] }

/-- Moves an operation to another stage. -/
def put (s : Scene σ) (number : Nat) (op : SceneOp) (stage : SceneStage) : Scene σ :=
  { s with ops := s.ops.set number (op, stage) }

/-- An operation asks for the right to run. -/
def ask (s : Scene σ) (number : Nat) : Bool × Scene σ :=
  let (first, call) := s.call.claim
  (first, { s with call, asked := number :: s.asked })

/-- A callback is called. -/
def tell (s : Scene σ) (callback : Nat) (outcome : Outcome) : Scene σ :=
  { s with heard := (callback, outcome) :: s.heard }

/-- A waiting callback passes to an operation. -/
def take (s : Scene σ) (number callback : Nat) : Scene σ :=
  { s with taken := (number, callback) :: s.taken }

/-- The next stage of an operation, and what the step to it does besides. -/
def advance? (s : Scene σ) (number : Nat) : SceneOp → SceneStage → Option (SceneStage × Scene σ)
  | .enqueue callback, .begun =>
    let (first, asked) := s.ask number
    some (if first then .claimed else .telling callback (.error .alreadyExecuted), asked)
  | .enqueue callback, .claimed =>
    let ((outcome?, call), plugins) := s.call.settle callback s.plugins
    match outcome? with
    | some outcome => some (.telling callback outcome, { s with call, plugins })
    | none => some (.returned .done, { s with call, plugins, parked := callback :: s.parked })
  | .execute, .begun =>
    let (first, asked) := s.ask number
    some (if first then .claimed else .returned (.outcome (.error .alreadyExecuted)), asked)
  | .execute, .claimed =>
    some (if s.call.canceled then .returned (.outcome (.error .canceled)) else .checked, s)
  | .execute, .checked =>
    let (outcome?, plugins) := s.call.outcome? s.plugins
    some (.returned (.outcome (outcome?.getD (.error (.transport .timeout)))), { s with plugins })
  | .cancel, .begun =>
    match s.call.stop with
    | (none, call) => some (.returned .done, { s with call })
    | (some callback, call) =>
      some (.telling callback (.error .canceled), { s with call }.take number callback)
  | .complete _, .begun =>
    match s.call.unpark with
    | (none, call) => some (.returned (.waited false), { s with call })
    | (some callback, call) => some (.holding callback, { s with call }.take number callback)
  | .complete raw, .holding callback =>
    let (outcome, plugins) := parseResponse (m := StateM σ) s.call.converter raw s.plugins
    some (.telling callback outcome, { s with plugins })
  | op, .telling callback outcome => some (.returned op.result, s.tell callback outcome)
  | _, _ => none

/-- What is left when an operation panics; none where it calls neither a converter nor a
callback. -/
def unwind? (s : Scene σ) : SceneOp → SceneStage → Option (Scene σ)
  | .enqueue callback, .claimed =>
    if !s.call.canceled && s.call.script.parses then
      some { s with lost := callback :: s.lost }
    else
      none
  | .execute, .checked => if s.call.script.parses then some s else none
  | .complete _, .holding callback => some { s with lost := callback :: s.lost }
  | _, .telling callback outcome => some (s.tell callback outcome)
  | _, _ => none

/-- The atomic steps; none where a step is not enabled. -/
def step? (s : Scene σ) : SceneStep σ → Option (Scene σ)
  | .enqueue => some (s.begin (.enqueue s.ops.length))
  | .execute => some (s.begin .execute)
  | .cancel => some (s.begin .cancel)
  | .complete raw => some (s.begin (.complete raw))
  | .advance number => do
    let (op, stage) ← s.ops[number]?
    let (next, after) ← s.advance? number op stage
    some (after.put number op next)
  | .unwind number => do
    let (op, stage) ← s.ops[number]?
    let after ← s.unwind? op stage
    some (after.put number op .panicked)
  | .plugins state => some { s with plugins := state }

end Scene

end RemoteCall
