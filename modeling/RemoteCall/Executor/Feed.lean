import RemoteCall.Executor.Queue

/-!
A serial queue and the task that works it off.

In a `Feed` jobs are handed over to a serial queue, by anybody who has the executor or a clone of
it: the clones share the queue. The task takes the first job and is busy with it until the job ends;
then it takes the next, and when it finds none it waits until a job is handed over. A job returns or
goes on without end; one that panics has no step here. The task may be stopped at any time, and then
the pending jobs are lost and no more jobs are accepted. Jobs are named by their numbers in the
order in which they were handed over, those included that were not accepted.
-/

namespace RemoteCall

/-- What has become of a job. -/
inductive FeedEvent where
  | began (number : Nat)
  | ended (number : Nat)
deriving DecidableEq

/-- A serial queue with its task. -/
structure Feed (ι : Type) where
  queue : SerialQueue (Nat × ι) := {}
  /-- The job that the task is in the middle of. -/
  current : Option Nat := none
  /-- The jobs that were handed over, in order. -/
  submitted : List (Nat × ι) := []
  /-- The jobs that were begun, in order. -/
  begun : List (Nat × ι) := []
  /-- The beginnings and ends of jobs, in order. -/
  events : List FeedEvent := []

/-- What may happen next. -/
inductive FeedStep (ι : Type) where
  | submit (job : ι)
  /-- The task goes on. -/
  | advance
  /-- The job of the task ends. -/
  | leave
  /-- The task is stopped. -/
  | stop

namespace Feed

variable {ι : Type}

/-- Hands a job over: whether it was accepted. The task is woken if it waits. -/
def submit (f : Feed ι) (job : ι) : Bool × Feed ι :=
  let entry := (f.submitted.length, job)
  let submitted := f.submitted ++ [entry]
  match f.queue.push? entry with
  | some queue => (true, { f with queue := queue.wake, submitted })
  | none => (false, { f with submitted })

/-- The task takes the first job, or begins to wait if there is none: the job that is begun. -/
def advance? (f : Feed ι) : Option (Option ι × Feed ι) :=
  if f.current.isSome || f.queue.waiting || f.queue.stopped then none
  else
    match f.queue.pop? with
    | some (entry, queue) =>
      some (some entry.2, { f with
        queue
        current := some entry.1
        begun := f.begun ++ [entry]
        events := f.events ++ [.began entry.1] })
    | none => some (none, { f with queue := f.queue.wait })

/-- The job of the task ends. -/
def leave? (f : Feed ι) : Option (Feed ι) :=
  f.current.map fun number => { f with current := none, events := f.events ++ [.ended number] }

/-- Stops the task: the jobs that are lost. -/
def stop (f : Feed ι) : List ι × Feed ι :=
  let (lost, queue) := f.queue.stop
  (lost.map (·.2), { f with queue })

/-- The steps; none where a step is not enabled. -/
def step? (f : Feed ι) : FeedStep ι → Option (Feed ι)
  | .submit job => some (f.submit job).2
  | .advance => f.advance?.map (·.2)
  | .leave => f.leave?
  | .stop => some f.stop.2

end Feed

end RemoteCall
