import RemoteCall.Proofs.AskedInOrder

/-!
Factories that a search passes over.

A search after a place passes over the factories up to that place, and where none is left it fails
with all of them listed as passed over (`Chain.PassesOver`, `Client.PassesOver`). Places are 64-bit
numbers, and the start of the search is found by an addition. That is the next place, unless there
is none (`startAfter_eq_iff`): after the last place of all the addition wraps, and the search passes
over nobody (`Client.next_lastPlace`, `asks_everybody_after_last`).
-/

namespace RemoteCall

variable {σ κ φ α : Type}

/-- The last of all places. -/
def lastPlace : UInt64 := 18446744073709551615

/-- The addition does not wrap at any place but the last one. -/
theorem startAfter_eq_iff (place : UInt64) :
    startAfter (some place) = place.toNat + 1 ↔ place.toNat + 1 < UInt64.size := by
  constructor
  · intro next
    have bound : startAfter (some place) < UInt64.size := (place + 1).toNat_lt_size
    rwa [next] at bound
  · exact startAfter_some

namespace Chain

variable {m : Type → Type} [Monad m] {c : Chain φ} {start : Nat}
  {probe : Nat → φ → m (Except Fault (Option α))}

/-- Behind the end of the chain nobody is asked. -/
theorem findFrom_of_length_le (outside : c.length ≤ start) :
    c.findFrom start probe = pure (.ok none) := by
  rw [findFrom, List.drop_of_length_le outside, scan]

theorem resolveFrom_of_length_le [LawfulMonad m] (outside : c.length ≤ start)
    (capability : Capability) (shape : Shape) :
    c.resolveFrom capability shape start probe =
      pure (.error (.resolution none ⟨capability, shape, c.names, []⟩)) := by
  have names : c.names.length ≤ start := by rwa [Chain.names, List.length_map]
  rw [resolveFrom, findFrom_of_length_le outside, pure_bind, exhausted,
    List.take_of_length_le names, List.drop_of_length_le names]

/-- The searches of a chain after a place pass over the factories up to it. -/
structure PassesOver (c : Chain φ) (probe : Nat → φ → Search σ (Except Fault (Option α)))
    (capability : Capability) (shape : Shape) (place : UInt64) : Prop where
  /-- They start at the next place. -/
  start : startAfter (some place) = place.toNat + 1
  /-- Nobody is asked up to the place. -/
  finds : ∀ s, ∀ v ∈ (ending (c.find (some place) (noting probe)) (s, [])).2.2,
    place.toNat < v.place
  /-- Nor in a search that must find something. -/
  resolves : ∀ s,
    ∀ v ∈ (ending (c.resolve capability shape (some place) (noting probe)) (s, [])).2.2,
      place.toNat < v.place
  /-- If the chain ends there, nobody is asked, and everybody is listed as passed over. -/
  atEnd : c.length ≤ place.toNat + 1 →
    c.find (some place) probe = pure (.ok none) ∧
    c.resolve capability shape (some place) probe =
      pure (.error (.resolution none ⟨capability, shape, c.names, []⟩))

theorem Account.lt_place {probe : Nat → φ → Search σ (Except Fault (Option α))} {place : Nat}
    {visits : List (Visit φ α)} {found : Option (Except Error (Option α))}
    (account : c.Account probe (place + 1) visits found) {v : Visit φ α} (mem : v ∈ visits) :
    place < v.place := by
  have inside : v.place ∈ List.range' (place + 1) visits.length :=
    account.places ▸ List.mem_map_of_mem mem
  exact (List.mem_range'_1.mp inside).1

theorem passesOver (c : Chain φ) (probe : Nat → φ → Search σ (Except Fault (Option α)))
    (capability : Capability) (shape : Shape) {place : UInt64}
    (fits : place.toNat + 1 < UInt64.size) : c.PassesOver probe capability shape place := by
  have fits' : ∀ p, some place = some p → p.toNat + 1 < UInt64.size :=
    fun _ same => Option.some.inj same ▸ fits
  refine ⟨startAfter_some fits, fun s v mem => ?_, fun s v mem => ?_, fun ends => ?_⟩
  · obtain ⟨t, visits, found, resolved, asks⟩ := c.exists_asksInOrder probe capability shape fits' s
    rw [asks.finds] at mem
    exact asks.account.lt_place mem
  · obtain ⟨t, visits, found, resolved, asks⟩ := c.exists_asksInOrder probe capability shape fits' s
    rw [asks.resolves] at mem
    exact asks.account.lt_place mem
  · rw [find, resolve, startAfter_some fits]
    exact ⟨findFrom_of_length_le ends, resolveFrom_of_length_le ends capability shape⟩

end Chain

/-- The searches of a client after a place pass over the factories up to it. -/
structure Client.PassesOver (c : Client σ κ) (place : UInt64) : Prop where
  /-- They are searches of the chain of the factories that are asked. -/
  scans : ∀ {q capability}, q.capability? = some capability → ∃ depth,
    c.next q (some place) =
      (c.chain q.side).resolve capability q.shape (some place) (c.probeAt depth q) ∧
    (c.chain q.side).PassesOver (c.probeAt depth q) capability q.shape place
  /-- If the chain ends there, everybody is listed as passed over. -/
  atEnd : ∀ {q capability}, q.capability? = some capability →
    (c.chain q.side).length ≤ place.toNat + 1 →
    c.next q (some place) =
      pure (.error (.resolution none ⟨capability, q.shape, (c.chain q.side).names, []⟩))

theorem Client.passesOver (c : Client σ κ) {place : UInt64} (fits : place.toNat + 1 < UInt64.size) :
    c.PassesOver place := by
  have scans {q : Query} {capability} (wanted : q.capability? = some capability) :=
    (c.handsOwnPlaces (some place)).resolves wanted (c.adapters.length + c.converters.length + 4095)
  refine ⟨fun wanted => ⟨_, scans wanted, Chain.passesOver _ _ _ _ fits⟩, fun wanted ends => ?_⟩
  exact (scans wanted).trans ((Chain.passesOver _ _ _ _ fits).atEnd ends).2

/-- A search after the last place is one from the start. -/
theorem Client.next_lastPlace (c : Client σ κ) (q : Query) :
    c.next q (some lastPlace) = c.offer q := rfl

/-- The searches of a chain or of a client after any place but the last one of all: nobody up to the
place is asked, and where nobody is left, everybody is listed as passed over. -/
theorem passes_over (chain : Chain φ) (probe : Nat → φ → Search σ (Except Fault (Option α)))
    (capability : Capability) (shape : Shape) (client : Client σ κ) (place : UInt64)
    (fits : place.toNat + 1 < UInt64.size) :
    chain.PassesOver probe capability shape place ∧ client.PassesOver place :=
  ⟨chain.passesOver probe capability shape fits, client.passesOver fits⟩

/-- Two factories that never match. -/
def idlers : Chain Unit := ⟨[⟨"First", ()⟩, ⟨"Second", ()⟩]⟩

/-- Nobody has an offer. -/
def passing (_ : Nat) (_ : Unit) : Search Unit (Except Fault (Option Nat)) := pure (.ok none)

/-- Far behind the chain, at the last place but one, nobody is asked. -/
theorem passes_over_behind_end : (lastPlace - 1).toNat + 1 < UInt64.size ∧
    idlers.PassesOver passing .callAdapter .unit (lastPlace - 1) ∧
    (localClient .empty false : Client Unit Unit).PassesOver (lastPlace - 1) ∧
    idlers.resolve .callAdapter .unit (some (lastPlace - 1)) passing =
      pure (.error (.resolution none ⟨.callAdapter, .unit, ["First", "Second"], []⟩)) := by
  have fits : (lastPlace - 1).toNat + 1 < UInt64.size := by decide
  obtain ⟨chain, client⟩ := passes_over idlers passing .callAdapter .unit
    (localClient .empty false : Client Unit Unit) (lastPlace - 1) fits
  exact ⟨fits, chain, client, (chain.atEnd (by decide)).2⟩

/-- After the last place of all, everybody is asked and nobody is listed as passed over, and a
client finds an adapter at the first place. -/
theorem asks_everybody_after_last :
    startAfter (some lastPlace) ≠ lastPlace.toNat + 1 ∧
    ending (idlers.find (some lastPlace) (noting passing)) ((), []) =
      (some (.ok none), ((), [⟨0, (), some (.ok none)⟩, ⟨1, (), some (.ok none)⟩])) ∧
    ending (idlers.resolve .callAdapter .unit (some lastPlace) (noting passing)) ((), []) =
      (some (.error (.resolution none ⟨.callAdapter, .unit, [], ["First", "Second"]⟩)),
        ((), [⟨0, (), some (.ok none)⟩, ⟨1, (), some (.ok none)⟩])) ∧
    (ending ((localClient .empty false : Client Unit Unit).next
      (.callAdapter (.call .unit) .empty) (some lastPlace)) ()).1.map Except.isOk = some true := by
  refine ⟨?_, rfl, rfl, ?_⟩
  · intro next
    exact absurd ((startAfter_eq_iff lastPlace).mp next) (by decide)
  · rw [Client.next_lastPlace]
    rfl

end RemoteCall
