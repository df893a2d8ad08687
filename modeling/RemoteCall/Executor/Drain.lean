import RemoteCall.Executor.Queue

/-!
A manual queue, driven from one thread.

In a `Drain` jobs are handed over to a manual queue, from outside and from the jobs themselves, and
the queue is run, from outside and by the jobs. A run takes the first job and is busy with it until
the job ends; then it takes the next, and when it finds none it returns. So the runs in progress lie
one inside the other, and all but the innermost are busy. What a job does is left open. It may go on
without end, but if it ends it returns to the run that has taken it: a job that panics would end
that run in the middle, with the jobs of the run not counted, and has no step here. Jobs are named
by their numbers in the order in which they were handed over.
-/

namespace RemoteCall

/-- A run in progress. -/
structure DrainRun where
  /-- The jobs that it has taken, in order. -/
  taken : List Nat := []
  /-- It is in the middle of the job that it took last. -/
  busy : Bool := false

/-- A run that has returned. -/
structure DrainReturn (ι : Type) where
  taken : List Nat
  /-- What it has returned. -/
  count : Nat
  /-- The jobs that were pending then. -/
  left : List (Nat × ι)

/-- A manual queue with its runs. -/
structure Drain (ι : Type) where
  queue : ManualQueue (Nat × ι) := {}
  /-- The runs in progress, the innermost first. -/
  active : List DrainRun := []
  /-- The jobs that were handed over, in order. -/
  submitted : List (Nat × ι) := []
  /-- The jobs that were begun, in order. -/
  begun : List (Nat × ι) := []
  /-- The runs that have returned, the latest first. -/
  returned : List (DrainReturn ι) := []

/-- What may happen next. -/
inductive DrainStep (ι : Type) where
  | submit (job : ι)
  /-- A run is begun. -/
  | start
  /-- The innermost run goes on. -/
  | advance
  /-- The job of the innermost run ends. -/
  | leave

namespace Drain

variable {ι : Type}

/-- Hands a job over. -/
def submit (d : Drain ι) (job : ι) : Drain ι :=
  let entry := (d.submitted.length, job)
  { d with queue := d.queue.push entry, submitted := d.submitted ++ [entry] }

/-- Begins a run: outside of all runs or inside a job. -/
def start? (d : Drain ι) : Option (Drain ι) :=
  if d.active.head?.all (·.busy) then
    some { d with queue := d.queue.start, active := {} :: d.active }
  else none

/-- The innermost run takes the first job, or returns if there is none: the job that is begun. -/
def advance? (d : Drain ι) : Option (Option ι × Drain ι) :=
  match d.active with
  | ⟨taken, false⟩ :: outer =>
    match d.queue.take? with
    | some (entry, queue) =>
      some (some entry.2, { d with
        queue
        active := ⟨taken ++ [entry.1], true⟩ :: outer
        begun := d.begun ++ [entry] })
    | none =>
      let (count, queue) := d.queue.finish
      some (none, { d with
        queue
        active := outer
        returned := ⟨taken, count, queue.pending⟩ :: d.returned })
  | _ => none

/-- The job of the innermost run ends. -/
def leave? (d : Drain ι) : Option (Drain ι) :=
  match d.active with
  | ⟨taken, true⟩ :: outer => some { d with active := ⟨taken, false⟩ :: outer }
  | _ => none

/-- The steps; none where a step is not enabled. -/
def step? (d : Drain ι) : DrainStep ι → Option (Drain ι)
  | .submit job => some (d.submit job)
  | .start => d.start?
  | .advance => d.advance?.map (·.2)
  | .leave => d.leave?

end Drain

end RemoteCall
