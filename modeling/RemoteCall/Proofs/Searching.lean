import RemoteCall.Client.Search

/-!
Searches, run from a plug-in state.

`ending` is what a search comes to and the state that it leaves; `ending_run_ask`,
`ending_scan_cons` and `ending_search` follow a probe, a scan and a search through their steps. A
search that has ended ends in the same way if it may nest more deeply (`ending_search_mono`), so the
bound on the depth decides only whether there is a result.
-/

namespace RemoteCall

variable {σ κ α β : Type}

/-- What a search comes to from a plug-in state, and the state that it leaves. -/
def ending (m : Search σ α) (s : σ) : Option α × σ := m.run.run s

theorem ending_bind (m : Search σ α) (f : α → Search σ β) (s : σ) :
    ending (m >>= f) s =
      match ending m s with
      | (some a, t) => ending (f a) t
      | (none, t) => (none, t) := by
  unfold ending
  rw [OptionT.run_bind, Option.elimM, StateT.run_bind]
  rcases m.run.run s with ⟨_ | a, t⟩
  · rfl
  · rfl

theorem run_settleSearch (m : Search σ (Except Error α)) (s : σ) :
    (settleSearch m).run s = ((ending m s).1.getD (.error endlessSearch), (ending m s).2) := rfl

/-- Only a search that ends well settles well. -/
theorem run_settleSearch_eq_ok_iff {m : Search σ (Except Error α)} {s t : σ} {a : α} :
    (settleSearch m).run s = (.ok a, t) ↔ ending m s = (some (.ok a), t) := by
  rw [run_settleSearch]
  rcases ending m s with ⟨_ | r, u⟩
  · constructor
    · intro settled
      cases settled
    · intro ended
      cases ended
  · constructor
    · intro settled
      cases settled
      rfl
    · intro ended
      cases ended
      rfl

/-- After a place that is not the last of all, the search starts at the next one. -/
theorem startAfter_some {place : UInt64} (fits : place.toNat + 1 < UInt64.size) :
    startAfter (some place) = place.toNat + 1 := by
  rw [startAfter, UInt64.toNat_add]
  exact Nat.mod_eq_of_lt fits

/-! ### Probes and scans -/

section Probes

variable {answer : Origin → (q : Query) → Search σ (Except Error (q.Offer σ κ))}

theorem ending_run_ask (origin : Origin) (q : Query)
    (next : Except Error (q.Offer σ κ) → Probe σ κ α) (s : σ) :
    ending ((Probe.ask origin q next).run answer) s =
      match ending (answer origin q) s with
      | (some r, t) => ending ((next r).run answer) t
      | (none, t) => (none, t) := by
  rw [Probe.run, ending_bind]
  rcases ending (answer origin q) s with ⟨_ | r, t⟩
  · rfl
  · rfl

end Probes

/-- A scan asks the first entry, and goes on with the others only if that does not match. -/
theorem ending_scan_cons {φ : Type} (probe : Nat → φ → Search σ (Except Fault (Option α)))
    (place : Nat) (e : Entry φ) (es : List (Entry φ)) (s : σ) :
    ending (Chain.scan probe place (e :: es)) s =
      match ending (probe place e.item) s with
      | (some (.ok (some found)), t) => (some (.ok (some found)), t)
      | (some (.ok none), t) => ending (Chain.scan probe (place + 1) es) t
      | (some (.error fault), t) => (some (.error (.ofFactory e.name fault)), t)
      | (none, t) => (none, t) := by
  rw [Chain.scan, ending_bind]
  rcases ending (probe place e.item) s with ⟨_ | _ | _ | found, t⟩
  · rfl
  · rfl
  · rfl
  · rfl

namespace Client

variable (c : Client σ κ)

/-- How the own questions of the factory at a place are answered; they may nest to the given
depth. -/
def answers (depth : Nat) (asked : Side) (place : Nat) (origin : Origin) (q : Query) :
    Search σ (Except Error (q.Offer σ κ)) :=
  c.search depth q (startOf origin asked place q)

/-- Asks the factory at a place. -/
def probeAt (depth : Nat) (q : Query) (place : Nat) (f : Factory σ κ) :
    Search σ (Except Fault (Option (q.Offer σ κ))) :=
  (f.probe q ⟨place, c.baseUrl⟩).run (c.answers depth q.side place)

/-- Asks the factories from a place on. -/
def scanFrom (depth : Nat) (q : Query) (start : Nat) :
    Search σ (Except Error (Option (q.Offer σ κ))) :=
  (c.chain q.side).findFrom start (c.probeAt depth q)

/-- The result of a search whose scan has ended. -/
def conclude (q : Query) (start : Nat) :
    Except Error (Option (q.Offer σ κ)) → Except Error (q.Offer σ κ)
  | .ok (some offer) => .ok offer
  | .ok none => c.unmatched start q
  | .error error => .error error

theorem search_succ (depth : Nat) (q : Query) (start : Nat) :
    c.search (depth + 1) q start = do return c.conclude q start (← c.scanFrom depth q start) := by
  rw [search]
  unfold scanFrom probeAt answers
  congr 1
  funext found
  rcases found with _ | _ | _
  · rfl
  · rfl
  · rfl

/-- A search ends as its scan does. -/
theorem ending_search (depth : Nat) (q : Query) (start : Nat) (s : σ) :
    ending (c.search (depth + 1) q start) s =
      ((ending (c.scanFrom depth q start) s).1.map (c.conclude q start),
        (ending (c.scanFrom depth q start) s).2) := by
  rw [search_succ, ending_bind]
  rcases ending (c.scanFrom depth q start) s with ⟨_ | found, t⟩
  · rfl
  · rfl

end Client

/-! ### More depth -/

/-- Wherever the first search ends, the second ends in the same way. -/
def Outlasts (m m' : Search σ α) : Prop :=
  ∀ {s t : σ} {a : α}, ending m s = (some a, t) → ending m' s = (some a, t)

theorem Outlasts.run {p : Probe σ κ α}
    {answer answer' : Origin → (q : Query) → Search σ (Except Error (q.Offer σ κ))}
    (longer : ∀ origin q, Outlasts (answer origin q) (answer' origin q)) :
    Outlasts (p.run answer) (p.run answer') := by
  induction p with
  | done r => exact id
  | read next ih =>
      intro s t a ended
      exact ih s ended
  | write state next ih =>
      intro s t a ended
      exact ih ended
  | ask origin q next ih =>
      intro s t a ended
      rw [ending_run_ask] at ended ⊢
      rcases told : ending (answer origin q) s with ⟨_ | r, u⟩
      · rw [told] at ended
        cases ended
      · rw [told] at ended
        rw [longer origin q told]
        exact ih r ended

theorem Outlasts.scan {φ : Type} {probe probe' : Nat → φ → Search σ (Except Fault (Option α))}
    (longer : ∀ place f, Outlasts (probe place f) (probe' place f)) {place : Nat}
    {es : List (Entry φ)} : Outlasts (Chain.scan probe place es) (Chain.scan probe' place es) := by
  induction es generalizing place with
  | nil => exact id
  | cons e es ih =>
      intro s t a ended
      rw [ending_scan_cons] at ended ⊢
      rcases asked : ending (probe place e.item) s with ⟨_ | _ | _ | found, u⟩
      · rw [asked] at ended
        cases ended
      · rw [asked] at ended
        rw [longer place e.item asked]
        exact ended
      · rw [asked] at ended
        rw [longer place e.item asked]
        exact ih ended
      · rw [asked] at ended
        rw [longer place e.item asked]
        exact ended

/-- A search that ends does so in the same way if it may nest more deeply. -/
theorem ending_search_mono (c : Client σ κ) {depth depth' : Nat} (le : depth ≤ depth') {q : Query}
    {start : Nat} : Outlasts (c.search depth q start) (c.search depth' q start) := by
  induction depth generalizing depth' q start with
  | zero =>
      intro s t a ended
      cases ended
  | succ depth ih =>
      obtain ⟨more, rfl⟩ := Nat.exists_eq_add_of_le' le
      intro s t a ended
      have scans : Outlasts (c.scanFrom depth q start) (c.scanFrom (depth + more) q start) :=
        Outlasts.scan fun place f => Outlasts.run fun origin q' => ih (Nat.le_add_right depth more)
      rw [c.ending_search] at ended
      rcases scan : ending (c.scanFrom depth q start) s with ⟨_ | found, u⟩
      · rw [scan] at ended
        cases ended
      · rw [scan] at ended
        rw [← Nat.add_assoc, Nat.add_comm more depth, c.ending_search, scans scan]
        exact ended

end RemoteCall
