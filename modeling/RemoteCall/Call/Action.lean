import RemoteCall.Response

/-!
Actions: what plug-in code does with calls, as finite programs.

An adapter, a callback or a job is given as an `Action`: a tree of operations on calls, on executors
and on the plug-in state `σ`. Callbacks and jobs that an action hands over are named by values of
`κ`; what they do is again an action, found by the engine's hooks. So plug-ins stay arbitrary, and
the engine can run them by recursion on the tree.
-/

namespace RemoteCall

/-- What can be seen of a call from outside. -/
structure CallView where
  request : Request
  canceled : Bool
  executed : Bool
deriving DecidableEq

/-- A program over calls that ends with a value of type `α`. -/
inductive Action (σ κ α : Type) where
  | done (value : α)
  /-- Reads the plug-in state. -/
  | read (next : σ → Action σ κ α)
  /-- Replaces the plug-in state. -/
  | write (state : σ) (next : Action σ κ α)
  /-- Looks at a call. -/
  | inspect (call : CallRef) (next : CallView → Action σ κ α)
  /-- Asks whether a call can be run on the spot without the danger of waiting for ever. -/
  | mayRun (call : CallRef) (next : Bool → Action σ κ α)
  /-- Runs a call on the spot; none stands for a run that would never end. -/
  | execute (call : CallRef) (next : Option Outcome → Action σ κ α)
  /-- Cancels a call. -/
  | cancel (call : CallRef) (next : Action σ κ α)
  /-- Makes a fresh call with the configuration of a call. -/
  | clone (call : CallRef) (next : CallRef → Action σ κ α)
  /-- Starts a call whose outcome goes to a callback. -/
  | enqueue (call : CallRef) (callback : κ) (next : Action σ κ α)
  /-- Gives up a call that this action has made. -/
  | release (call : CallRef) (next : Action σ κ α)
  /-- Hands a job to an executor. -/
  | submit (executor : Executor) (job : κ) (next : Action σ κ α)
  /-- Runs the manual queue until it is empty; the program learns how many jobs the run took. -/
  | drain (next : Nat → Action σ κ α)
  /-- Takes the first job that the user's own executor with this number holds, and runs or drops it;
  the program learns whether there was one. -/
  | takeJob (executor : Nat) (run : Bool) (next : Bool → Action σ κ α)

namespace Action

variable {σ κ α β : Type}

/-- One action after another. -/
def bind (a : Action σ κ α) (f : α → Action σ κ β) : Action σ κ β :=
  match a with
  | done value => f value
  | read next => read fun s => (next s).bind f
  | write s next => write s (next.bind f)
  | inspect c next => inspect c fun v => (next v).bind f
  | mayRun c next => mayRun c fun b => (next b).bind f
  | execute c next => execute c fun o => (next o).bind f
  | cancel c next => cancel c (next.bind f)
  | clone c next => clone c fun d => (next d).bind f
  | enqueue c callback next => enqueue c callback (next.bind f)
  | release c next => release c (next.bind f)
  | submit executor job next => submit executor job (next.bind f)
  | drain next => drain fun n => (next n).bind f
  | takeJob executor run next => takeJob executor run fun b => (next b).bind f

instance : Monad (Action σ κ) where
  pure := done
  bind := bind

/-- Changes the plug-in state. -/
def modify (f : σ → σ) : Action σ κ Unit := read fun s => write (f s) (done ())

/-- Looks at a call. -/
def view (call : CallRef) : Action σ κ CallView := inspect call done

/-- Runs a call on the spot if it can be run so without danger. -/
def tryExecute (call : CallRef) : Action σ κ (Option Outcome) :=
  mayRun call fun may => if may then execute call done else done none

/-- The request of a call. -/
def requestOf (call : CallRef) : Action σ κ Request := inspect call fun v => done v.request

end Action

end RemoteCall
