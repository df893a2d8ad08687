import RemoteCall.Proofs.Blame

/-!
What a search that has ended has come to.

`Client.FirstMatch` says which factory an offer comes from: all before it were asked and passed.
A search that finds something has such a first match (`firstMatch_of_ending`), unless the natural
form of a text was what it fell back to. `Client.NoMatch` says in the same way how a search fails.
-/

namespace RemoteCall

variable {σ κ α : Type}

/-- A scan ends with the offer of the entry that it has come to. -/
theorem Chain.Reaches.ending_scan_of_offer {φ : Type}
    {probe : Nat → φ → Search σ (Except Fault (Option α))} {place place' : Nat} {e : Entry φ}
    {es : List (Entry φ)} {s t u : σ} {offer : α}
    (reaches : Chain.Reaches probe place es s place' e t)
    (offers : ending (probe place' e.item) t = (some (.ok (some offer)), u)) :
    ending (Chain.scan probe place es) s = (some (.ok (some offer)), u) := by
  induction reaches with
  | here place e es s => rw [ending_scan_cons, offers]
  | pass passes _ ih =>
      rw [ending_scan_cons, passes]
      exact ih offers

/-- A scan that has found something has come to the entry that offers it. -/
theorem Chain.reaches_of_offer {φ : Type}
    {probe : Nat → φ → Search σ (Except Fault (Option α))} {place : Nat} {es : List (Entry φ)}
    {s u : σ} {offer : α}
    (found : ending (Chain.scan probe place es) s = (some (.ok (some offer)), u)) :
    ∃ place' e t, Chain.Reaches probe place es s place' e t ∧
      ending (probe place' e.item) t = (some (.ok (some offer)), u) := by
  induction es generalizing place s with
  | nil => cases found
  | cons e es ih =>
      rw [ending_scan_cons] at found
      rcases asked : ending (probe place e.item) s with ⟨_ | fault | _ | other, t⟩
      · rw [asked] at found
        cases found
      · rw [asked] at found
        cases found
      · rw [asked] at found
        obtain ⟨place', e', t', reaches, offers⟩ := ih found
        exact ⟨place', e', t', .pass asked reaches, offers⟩
      · rw [asked] at found
        cases found
        exact ⟨place, e, s, .here place e es s, asked⟩

namespace Client

variable {c : Client σ κ}

/-- From the state `s`, the search from the place `start` on finds the offer: every factory before
the one that makes it was asked and passes. The search leaves the state `t`. -/
inductive FirstMatch (c : Client σ κ) :
    Nat → (q : Query) → Nat → σ → q.Offer σ κ → σ → Prop where
  | intro {depth : Nat} {q : Query} {start place : Nat} {s t u : σ} {e : Entry (Factory σ κ)}
      {offer : q.Offer σ κ}
      (reaches : Chain.Reaches (c.probeAt depth q) start ((c.chain q.side).entries.drop start) s
        place e t)
      (offers : ending (c.probeAt depth q place e.item) t = (some (.ok (some offer)), u)) :
      FirstMatch c (depth + 1) q start s offer u

theorem firstMatch_iff {depth : Nat} {q : Query} {start : Nat} {s t : σ} {offer : q.Offer σ κ} :
    c.FirstMatch (depth + 1) q start s offer t ↔
      ending (c.scanFrom depth q start) s = (some (.ok (some offer)), t) := by
  constructor
  · rintro ⟨reaches, offers⟩
    exact reaches.ending_scan_of_offer offers
  · intro found
    obtain ⟨place, e, u, reaches, offers⟩ := Chain.reaches_of_offer found
    exact .intro reaches offers

theorem FirstMatch.ending_search {depth : Nat} {q : Query} {start : Nat} {s t : σ}
    {offer : q.Offer σ κ} (first : c.FirstMatch depth q start s offer t) :
    ending (c.search depth q start) s = (some (.ok offer), t) := by
  cases depth with
  | zero => cases first
  | succ depth =>
      rw [c.ending_search, firstMatch_iff.mp first]
      rfl

/-- A search for something that must be found ends well only with a first match. -/
theorem firstMatch_of_ending {depth : Nat} {q : Query} {start : Nat} {s t : σ}
    {offer : q.Offer σ κ} {capability : Capability} (wanted : q.capability? = some capability)
    (found : ending (c.search depth q start) s = (some (.ok offer), t)) :
    c.FirstMatch depth q start s offer t := by
  cases depth with
  | zero => cases found
  | succ depth =>
      rw [c.ending_search] at found
      apply firstMatch_iff.mpr
      rcases scan : ending (c.scanFrom depth q start) s with ⟨_ | error | _ | other, u⟩
      · rw [scan] at found
        cases found
      · rw [scan] at found
        cases found
      · rw [scan] at found
        obtain ⟨fellBack, rfl⟩ := Prod.mk.inj found
        have unmatched : c.unmatched start q = .ok offer := Option.some.inj fellBack
        rw [c.unmatched_of_capability wanted] at unmatched
        cases unmatched
      · rw [scan] at found
        cases found
        rfl

/-- From the state `s`, the search from the place `start` on fails with the error: every factory
was asked and passes, or one of them raises a fault. The search leaves the state `t`. -/
inductive NoMatch (c : Client σ κ) : Nat → Query → Nat → σ → Error → σ → Prop where
  | exhausted {depth : Nat} {q : Query} {start : Nat} {s t : σ} {capability : Capability}
      (wanted : q.capability? = some capability)
      (nobody : ending (c.scanFrom depth q start) s = (some (.ok none), t)) :
      NoMatch c (depth + 1) q start s (.resolution none ⟨capability, q.shape,
        (c.chain q.side).names.take start, (c.chain q.side).names.drop start⟩) t
  | fault {depth : Nat} {q : Query} {start place : Nat} {s t u : σ} {e : Entry (Factory σ κ)}
      {fault : Fault}
      (reaches : Chain.Reaches (c.probeAt depth q) start ((c.chain q.side).entries.drop start) s
        place e t)
      (raises : ending (c.probeAt depth q place e.item) t = (some (.error fault), u)) :
      NoMatch c (depth + 1) q start s (.ofFactory e.name fault) u

theorem noMatch_iff {depth : Nat} {q : Query} {start : Nat} {s t : σ} {error : Error} :
    c.NoMatch depth q start s error t ↔
      ending (c.search depth q start) s = (some (.error error), t) := by
  constructor
  · intro failed
    cases failed with
    | exhausted wanted nobody =>
        rw [c.ending_search, nobody, ← c.unmatched_of_capability wanted start]
        rfl
    | fault reaches raises => exact ending_search_of_reaches reaches raises
  · intro failed
    cases depth with
    | zero => cases failed
    | succ depth =>
        rw [c.ending_search] at failed
        rcases scan : ending (c.scanFrom depth q start) s with ⟨_ | error' | _ | offer, u⟩
        · rw [scan] at failed
          cases failed
        · rw [scan] at failed
          cases failed
          obtain ⟨place, e, t, fault, reaches, raises, rfl⟩ := Chain.reaches_of_ending scan
          exact .fault reaches raises
        · rw [scan] at failed
          obtain ⟨unmatched, rfl⟩ := Prod.mk.inj failed
          obtain ⟨capability, wanted, rfl⟩ := capability_of_unmatched (Option.some.inj unmatched)
          exact .exhausted wanted scan
        · rw [scan] at failed
          cases failed

end Client

end RemoteCall
