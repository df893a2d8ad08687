/-!
The tasks that wait for their turn on the only worker of a runtime.

A task is in the queue at most once, however often it is made ready. The worker takes the tasks that
its own code has made ready before those that were made ready from outside, and each kind in the
order in which they came.
-/

namespace RemoteCall

/-- Who makes a task ready. -/
inductive Waker where
  /-- Code that the worker itself runs. -/
  | worker
  | outsider
deriving DecidableEq

/-- Tasks, by their numbers, that are ready to be polled. -/
structure ReadyQueue where
  byWorker : List Nat := []
  byOutsider : List Nat := []

namespace ReadyQueue

/-- Whether a task is ready. -/
def contains (q : ReadyQueue) (task : Nat) : Bool :=
  q.byWorker.contains task || q.byOutsider.contains task

/-- Makes a task ready; one that is ready keeps its place. -/
def push (q : ReadyQueue) (waker : Waker) (task : Nat) : ReadyQueue :=
  if q.contains task then q
  else
    match waker with
    | .worker => { q with byWorker := q.byWorker ++ [task] }
    | .outsider => { q with byOutsider := q.byOutsider ++ [task] }

/-- Takes the task whose turn it is. -/
def pop? (q : ReadyQueue) : Option (Nat × ReadyQueue) :=
  match q.byWorker, q.byOutsider with
  | task :: rest, _ => some (task, { q with byWorker := rest })
  | [], task :: rest => some (task, { q with byOutsider := rest })
  | [], [] => none

/-- A task that is ready stays where it is. -/
theorem push_of_contains {q : ReadyQueue} {task : Nat} (waker : Waker) (h : q.contains task) :
    q.push waker task = q := by
  simp [push, h]

/-- A task that was made ready is ready, and so are the others. -/
@[simp]
theorem contains_push (q : ReadyQueue) (waker : Waker) (task other : Nat) :
    (q.push waker task).contains other = (q.contains other || other == task) := by
  by_cases h : q.contains task
  · rw [push_of_contains waker h]
    by_cases same : other = task <;> simp_all
  · cases waker <;> grind [push, contains]

end ReadyQueue

end RemoteCall
