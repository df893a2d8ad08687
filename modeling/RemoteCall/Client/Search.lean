import RemoteCall.Client.Config

/-!
Searching a client's chains for a converter or an adapter.

A search asks the factories of one chain in order. A factory may ask the client in turn, so searches
nest; `Client.search` is a recursion on how deep they may. A factory that asks only for what comes
after it reaches at most the depth `adapters + converters`; one that starts over from the beginning
of a chain may need more, and `Client.depth` leaves room for that. A search that runs out of depth
has no result (`none`), which `settleSearch` reports as an error of the declaration.
-/

namespace RemoteCall

variable {σ κ α : Type}

/-- Effects of a search: the plug-in state, and no result if the search nests too deeply. -/
abbrev Search (σ : Type) := OptionT (StateM σ)

namespace Client

/-- The factories of one kind. -/
def chain (c : Client σ κ) : Side → Chain (Factory σ κ)
  | .adapters => c.adapters
  | .converters => c.converters

/-- The place from which a factory's own question is searched: after the factory if the question
goes to its own chain, else at the start. -/
def startOf (origin : Origin) (asked : Side) (position : Nat) (q : Query) : Nat :=
  match origin with
  | .next => if q.side = asked then position + 1 else 0
  | .start => 0

/-- What an ended search without a match means: an error, except that texts have a natural form. -/
def unmatched (c : Client σ κ) (start : Nat) : (q : Query) → Except Error (q.Offer σ κ)
  | .callAdapter s _ =>
    .error (.resolution none (c.adapters.exhausted .callAdapter s start))
  | .responseConverter s _ =>
    .error (.resolution none (c.converters.exhausted .responseConverter s start))
  | .requestConverter s _ _ =>
    .error (.resolution none (c.converters.exhausted .requestConverter s start))
  | .stringConverter .. => .ok (naturalTextConverter σ)

/-- Searches for an offer from the place `start` on, with searches nested up to the given depth. -/
def search (c : Client σ κ) :
    Nat → (q : Query) → Nat → Search σ (Except Error (q.Offer σ κ))
  | 0, _, _ => failure
  | depth + 1, q, start => do
    let found ← (c.chain q.side).findFrom start fun position factory =>
      (factory.probe q ⟨position, c.baseUrl⟩).run fun origin q' =>
        search c depth q' (startOf origin q.side position q')
    match found with
    | .ok (some offer) => pure (.ok offer)
    | .ok none => pure (c.unmatched start q)
    | .error error => pure (.error error)

/-- How deep searches may nest. -/
def depth (c : Client σ κ) : Nat := c.adapters.length + c.converters.length + 4096

/-- Searches for an offer, starting after a place. -/
def next (c : Client σ κ) (q : Query) (skipPast : Option UInt64) :
    Search σ (Except Error (q.Offer σ κ)) :=
  c.search c.depth q (startAfter skipPast)

/-- Searches for an offer from the start. -/
def offer (c : Client σ κ) (q : Query) : Search σ (Except Error (q.Offer σ κ)) := c.next q none

end Client

/-- The failure of a search in which factories ask each other without end. -/
def endlessSearch : Error := .configuration none "Factories ask each other without end."

/-- The result of a search; too deep a search is an error. -/
def settleSearch (s : Search σ (Except Error α)) : StateM σ (Except Error α) := do
  return (← s.run).getD (.error endlessSearch)

end RemoteCall
