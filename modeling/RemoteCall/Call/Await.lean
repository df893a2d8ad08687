import RemoteCall.Response

/-!
Awaiting a call: the future that stands for the outcome of an enqueued call.

An await enqueues its call when it is polled first, with a callback that fills the await's one
result cell. From then on it has a receiver, without which nothing is put into the cell, and a guard
that cancels the call when it is dropped. A poll that finds the cell filled, or finds that the
callback is gone, takes both away and ends the await.
-/

namespace RemoteCall

/-- The one place for the outcome of an awaited call. -/
inductive ResultCell where
  | empty
  | filled (outcome : Outcome)
  /-- The callback was dropped without an outcome. -/
  | abandoned

/-- How far an await is. -/
inductive AwaitStage where
  | unpolled
  | waiting
  /-- It was given its outcome. -/
  | resumed
  /-- Nobody waits any more. -/
  | dropped
deriving DecidableEq

/-- The state of an await. -/
structure Await where
  stage : AwaitStage := .unpolled
  cell : ResultCell := .empty
  /-- Whether the receiver of the cell is there. -/
  listening : Bool := false
  /-- Whether the guard will cancel the call when it is dropped. -/
  armed : Bool := false

/-- What a future waits for. -/
inductive Purpose where
  | value (method : String) (nullable : Bool)
  | envelope

/-- What a future gives. -/
inductive Awaited where
  | value (body : Option Payload)
  | envelope (envelope : Envelope)

/-- The result of a future whose call has ended. -/
def Purpose.result : Purpose → Outcome → Except Error Awaited
  | _, .error error => .error error
  | .envelope, .ok e => .ok (.envelope e)
  | .value method nullable, .ok e => (e.awaitedBody method nullable).map .value

/-- The failure of an await whose callback no longer exists. -/
def noOutcome : Error := .transport (.connectionLost "call finished without reporting an outcome")

/-- What the receiver finds in the cell. -/
def ResultCell.outcome? : ResultCell → Option Outcome
  | empty => none
  | filled outcome => some outcome
  | abandoned => some (.error noOutcome)

namespace Await

/-- Whether the await may still need its call. -/
def isOpen (a : Await) : Bool := a.stage = .unpolled || a.stage = .waiting

/-- The first poll; it tells whether the call has to be enqueued now. -/
def start (a : Await) : Bool × Await :=
  if a.stage = .unpolled then
    (true, { a with stage := .waiting, listening := true, armed := true })
  else (false, a)

/-- The callback is called. Without a receiver the outcome is discarded. -/
def fill (a : Await) (outcome : Outcome) : Await :=
  match a.listening, a.cell with
  | true, .empty => { a with cell := .filled outcome }
  | _, _ => a

/-- The callback is dropped. -/
def lose (a : Await) : Await :=
  match a.cell with
  | .empty => { a with cell := .abandoned }
  | _ => a

/-- Looks for the outcome. Once it is found the guard is disarmed and the await is over. -/
def check (a : Await) : Option Outcome × Await :=
  if a.stage = .waiting then
    match a.cell.outcome? with
    | none => (none, a)
    | some outcome =>
      (some outcome, { a with stage := .resumed, listening := false, armed := false })
  else (none, a)

/-- The future is dropped, the receiver first and then the guard; it tells whether the guard cancels
the call. -/
def drop (a : Await) : Bool × Await :=
  (a.armed, { a with
    stage := if a.isOpen then .dropped else a.stage
    listening := false
    armed := false })

end Await

end RemoteCall
