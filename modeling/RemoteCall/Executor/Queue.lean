/-!
Queues of jobs that are run in the order in which they were handed over.

A `ManualQueue` is run on demand and counts the jobs it has run; a `SerialQueue` belongs to a task
that takes one job after the other, and waits while there is none, until the task is stopped. Taking
a job and running it are separate steps, so a job may hand over further jobs. A job of a manual
queue may even run the queue itself: then several runs are in progress, one inside the other, and
each counts the jobs it takes.
-/

namespace RemoteCall

/-- A queue that is run on demand. -/
structure ManualQueue (ι : Type) where
  pending : List ι := []
  /-- How many jobs the ended runs have taken. -/
  ran : Nat := 0
  /-- How many jobs each run in progress has taken, the innermost run first. -/
  runs : List Nat := []

namespace ManualQueue

variable {ι : Type}

/-- Hands a job over. -/
def push (q : ManualQueue ι) (job : ι) : ManualQueue ι := { q with pending := q.pending ++ [job] }

/-- Begins a run. -/
def start (q : ManualQueue ι) : ManualQueue ι := { q with runs := 0 :: q.runs }

/-- Takes the first job for the innermost run. -/
def take? (q : ManualQueue ι) : Option (ι × ManualQueue ι) :=
  match q.pending with
  | [] => none
  | job :: rest => some (job, { q with pending := rest, runs := q.runs.modifyHead (· + 1) })

/-- Ends the innermost run: the number of jobs it has taken. -/
def finish (q : ManualQueue ι) : Nat × ManualQueue ι :=
  match q.runs with
  | [] => (0, q)
  | count :: outer => (count, { q with ran := q.ran + count, runs := outer })

end ManualQueue

/-- A queue that a task of its own works off. -/
structure SerialQueue (ι : Type) where
  pending : List ι := []
  /-- The task has found the queue empty and waits for a job. -/
  waiting : Bool := false
  /-- The task is gone, nothing is run any more. -/
  stopped : Bool := false

namespace SerialQueue

variable {ι : Type}

/-- Hands a job over; a stopped queue does not take it. -/
def push? (q : SerialQueue ι) (job : ι) : Option (SerialQueue ι) :=
  if q.stopped then none else some { q with pending := q.pending ++ [job] }

/-- Takes the first job. -/
def pop? (q : SerialQueue ι) : Option (ι × SerialQueue ι) :=
  match q.pending with
  | [] => none
  | job :: rest => some (job, { q with pending := rest })

/-- The task begins to wait for a job. -/
def wait (q : SerialQueue ι) : SerialQueue ι := { q with waiting := true }

/-- The task will be polled, so it waits no longer. -/
def wake (q : SerialQueue ι) : SerialQueue ι := { q with waiting := false }

/-- Stops the queue: the jobs that will never run, in order. -/
def stop (q : SerialQueue ι) : List ι × SerialQueue ι := (q.pending, { stopped := true })

end SerialQueue

end RemoteCall
