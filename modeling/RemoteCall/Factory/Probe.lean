import RemoteCall.Factory.Capability

/-!
Factories: plug-ins that are asked one after the other for a converter or an adapter.

A factory answers a query with a `Probe`, a finite program that may read and write the plug-in state
and may itself ask the client, either for what a later factory would offer (`Origin.next`) or from
the start of the chain (`Origin.start`). A probe ends with an offer, with no match, or with a fault.
-/

namespace RemoteCall

/-- Where a factory's own question starts. -/
inductive Origin where
  /-- After the asking factory in its own chain, at the start of the other chain. -/
  | next
  /-- At the start of the chain. -/
  | start
deriving DecidableEq

/-- The answer of a factory, with the questions it asks on the way. -/
inductive Probe (σ κ α : Type) where
  /-- An offer, no match (`.ok none`), or a fault. -/
  | done (answer : Except Fault (Option α))
  /-- Reads the plug-in state. -/
  | read (next : σ → Probe σ κ α)
  /-- Replaces the plug-in state. -/
  | write (state : σ) (next : Probe σ κ α)
  /-- Asks the client. -/
  | ask (origin : Origin) (q : Query) (next : Except Error (q.Offer σ κ) → Probe σ κ α)

namespace Probe

variable {σ κ α β : Type}

/-- No match. -/
def pass : Probe σ κ α := done (.ok none)

/-- A match. -/
def offer (value : α) : Probe σ κ α := done (.ok (some value))

/-- A fault. -/
def fail (fault : Fault) : Probe σ κ α := done (.error fault)

/-- Changes the plug-in state before the rest. -/
def modify (f : σ → σ) (rest : Probe σ κ α) : Probe σ κ α := read fun s => write (f s) rest

/-- Carries a probe out, its questions answered by `answer`. -/
def run {m : Type → Type} [Monad m] [MonadStateOf σ m]
    (answer : Origin → (q : Query) → m (Except Error (q.Offer σ κ))) :
    Probe σ κ α → m (Except Fault (Option α))
  | done r => pure r
  | read next => do (next (← getThe σ)).run answer
  | write s next => do
    set s
    next.run answer
  | ask origin q next => do (next (← answer origin q)).run answer

end Probe

/-- What a factory is told about the search that asks it. -/
structure Lookup where
  /-- The factory's own place in its chain. -/
  position : Nat
  /-- The base URL of the client. -/
  baseUrl : String

/-- A plug-in that makes offers. -/
structure Factory (σ κ : Type) where
  /-- Tells the factory from other ones. -/
  key : Nat
  probe : (q : Query) → Lookup → Probe σ κ (q.Offer σ κ)

end RemoteCall
