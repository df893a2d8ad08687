import RemoteCall.Call.Exchange
import RemoteCall.Executor.Drain
import RemoteCall.Executor.Feed

/-!
Callbacks on their way through the queues.

A `Depot` is an exchange whose manual and serial executors are queues: a parcel that is handed to
one of them is a job of the queue like any other, and it is opened when the queue begins this job.
The parcels of all other executors may still be opened at any time, and users may hand over jobs of
their own. So everything that steps of the exchange, of the manual queue and of the serial queue can
do may happen, in any order.
-/

namespace RemoteCall

/-- Whether the executor is one of the queues. -/
def Executor.isQueue : Executor → Bool
  | manual | serial => true
  | inline | discarding | concurrent | custom _ => false

/-- The wrapper whose callback hears of a parcel when it is opened, and the operation. -/
def Parcel.ticket (p : Parcel Nat) : CallRef × Nat := (p.wrapper, p.callback.last)

/-- A job of a queue. -/
inductive Errand (κ : Type) where
  | user (name : κ)
  | deliver (parcel : Parcel Nat)

/-- The parcel that a job delivers. -/
def Errand.parcel? {κ : Type} : Errand κ → Option (Parcel Nat)
  | user _ => none
  | deliver parcel => some parcel

/-- Callbacks and the queues. The logs have wrappers with the number of an operation. -/
structure Depot (κ : Type) where
  exchange : Exchange := {}
  manual : Drain (Errand κ) := {}
  serial : Feed (Errand κ) := {}
  /-- The wrappers whose delegates have completed, in order. -/
  completed : List (CallRef × Nat) := []
  /-- The wrappers whose callbacks were called, in order. -/
  fired : List (CallRef × Nat) := []

/-- What may happen next. -/
inductive DepotStep (κ : Type) where
  /-- Something in the exchange, but nothing that concerns a parcel in a queue. -/
  | exchange (step : ExchangeStep)
  /-- Something with the manual queue; a job that is handed over is a user's. -/
  | manual (step : DrainStep κ)
  /-- Something with the serial queue; a job that is handed over is a user's. -/
  | serial (step : FeedStep κ)

/-- The callback of an operation is dropped if anybody has it. -/
def Exchange.drop (x : Exchange) (number : Nat) : Exchange :=
  (x.step? (.lose number)).getD x

/-- The parcels are dropped with their callbacks. -/
def Exchange.dropAll (x : Exchange) (lost : List (Parcel Nat)) : Exchange :=
  lost.foldl (fun x parcel => x.drop parcel.callback.last) x

namespace Depot

variable {κ : Type}

/-- Gives a parcel to its executor if this is a queue. A stopped one does not accept it. -/
def give (d : Depot κ) (parcel : Parcel Nat) : Depot κ :=
  match parcel.executor with
  | .manual => { d with manual := d.manual.submit (.deliver parcel) }
  | .serial =>
    match d.serial.submit (.deliver parcel) with
    | (true, serial) => { d with serial }
    | (false, serial) =>
      { d with serial, exchange := d.exchange.drop parcel.callback.last }
  | .inline | .discarding | .concurrent | .custom _ => d

/-- What comes of it that the callback of an operation was called: if a relay has heard the outcome,
the delegate of its wrapper has completed, and the parcel goes to the executor. -/
def forward (d : Depot κ) (number : Nat) : Depot κ :=
  match d.exchange.ops[number]? with
  | some ⟨_, .handed parcel⟩ => { d with completed := d.completed ++ [parcel.ticket] }.give parcel
  | _ => d

/-- The parcel of an operation is opened, and the callback in it is called. -/
def unpack? (d : Depot κ) (parcel : Parcel Nat) (number : Nat) : Option (Depot κ) :=
  (d.exchange.step? (.run number)).map fun exchange =>
    { d with exchange, fired := d.fired ++ [parcel.ticket] }.forward number

/-- Whether a queue has the callback of an operation in a parcel. -/
def isQueued (d : Depot κ) (number : Nat) : Bool :=
  match d.exchange.ops[number]? with
  | some ⟨_, .handed parcel⟩ => parcel.executor.isQueue
  | _ => false

/-- The steps of the exchange. A parcel in a queue can neither be opened nor be dropped by them. -/
def carry? (d : Depot κ) : ExchangeStep → Option (Depot κ)
  | .complete number outcome =>
    (d.exchange.step? (.complete number outcome)).map fun exchange =>
      { d with exchange }.forward number
  | .run number =>
    match d.exchange.ops[number]? with
    | some ⟨_, .handed parcel⟩ =>
      if parcel.executor.isQueue then none else d.unpack? parcel number
    | _ => none
  | .lose number =>
    if d.isQueued number then none
    else (d.exchange.step? (.lose number)).map fun exchange => { d with exchange }
  | step => (d.exchange.step? step).map fun exchange => { d with exchange }

/-- A job of a queue is begun. A user's job may do anything that is a step. -/
def begin? (d : Depot κ) : Option (Errand κ) → Option (Depot κ)
  | some (.deliver parcel) => d.unpack? parcel parcel.callback.last
  | some (.user _) | none => some d

/-- The steps; none where a step is not enabled. -/
def step? (d : Depot κ) : DepotStep κ → Option (Depot κ)
  | .exchange step => d.carry? step
  | .manual (.submit job) => some { d with manual := d.manual.submit (.user job) }
  | .manual .start => d.manual.start?.map fun manual => { d with manual }
  | .manual .advance => d.manual.advance?.bind fun (job, manual) => { d with manual }.begin? job
  | .manual .leave => d.manual.leave?.map fun manual => { d with manual }
  | .serial (.submit job) => some { d with serial := (d.serial.submit (.user job)).2 }
  | .serial .advance => d.serial.advance?.bind fun (job, serial) => { d with serial }.begin? job
  | .serial .leave => d.serial.leave?.map fun serial => { d with serial }
  | .serial .stop =>
    let (lost, serial) := d.serial.stop
    some { d with serial, exchange := d.exchange.dropAll (lost.filterMap Errand.parcel?) }

end Depot

end RemoteCall
