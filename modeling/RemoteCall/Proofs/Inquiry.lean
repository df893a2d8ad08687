import Mathlib.Tactic.Choose
import RemoteCall.Proofs.Searching

/-!
Factories that answer as functions of what they are told.

An `Inquiry` is a probe without the plug-in state: questions to the client, and an answer that
depends on the results alone. A probe that `Follows` an inquiry may read and write the state (keep a
log, count), but neither its questions nor its answer depend on it. A client all of whose factories
are `Steady` finds the same thing from every plug-in state (`Steady.gives_search`).
-/

namespace RemoteCall

variable {σ κ α β : Type}

/-- What a probe asks and answers. -/
inductive Inquiry (σ κ α : Type) where
  | done (answer : Except Fault (Option α))
  | ask (origin : Origin) (q : Query) (next : Except Error (q.Offer σ κ) → Inquiry σ κ α)

/-- The probe asks and answers as the inquiry does, whatever it reads in the plug-in state. -/
inductive Probe.Follows : Probe σ κ α → Inquiry σ κ α → Prop where
  | done (answer : Except Fault (Option α)) : Follows (.done answer) (.done answer)
  | read {next : σ → Probe σ κ α} {t : Inquiry σ κ α} (each : ∀ s, Follows (next s) t) :
      Follows (.read next) t
  | write {state : σ} {next : Probe σ κ α} {t : Inquiry σ κ α} (rest : Follows next t) :
      Follows (.write state next) t
  | ask {origin : Origin} {q : Query} {next : Except Error (q.Offer σ κ) → Probe σ κ α}
      {next' : Except Error (q.Offer σ κ) → Inquiry σ κ α}
      (each : ∀ r, Follows (next r) (next' r)) :
      Follows (.ask origin q next) (.ask origin q next')

/-- The factory answers as a function of the question, of its place, and of what it is told. -/
def Factory.Steady (f : Factory σ κ) : Prop := ∀ q l, ∃ t, (f.probe q l).Follows t

/-- All factories of the client answer as functions of what they are told. -/
def Client.Steady (c : Client σ κ) : Prop :=
  ∀ side, ∀ e ∈ (c.chain side).entries, e.item.Steady

/-! ### Results that do not depend on the plug-in state -/

/-- The search has this result from every plug-in state. -/
def Gives (m : Search σ α) (r : Option α) : Prop := ∀ s, (ending m s).1 = r

namespace Gives

theorem bind {m : Search σ α} {f : α → Search σ β} {a : Option α} {b : Option β}
    (first : Gives m a) (rest : ∀ x, a = some x → Gives (f x) b) (none : a = none → b = none) :
    Gives (m >>= f) b := by
  intro s
  have told := first s
  rw [ending_bind]
  rcases ended : ending m s with ⟨_ | x, t⟩
  · rw [ended] at told
    exact (none told.symm).symm
  · rw [ended] at told
    exact rest x told.symm t

theorem scan_cons {φ : Type} {probe : Nat → φ → Search σ (Except Fault (Option α))} {place : Nat}
    {e : Entry φ} {es : List (Entry φ)} {a : Option (Except Fault (Option α))}
    {others : Option (Except Error (Option α))} (asked : Gives (probe place e.item) a)
    (rest : Gives (Chain.scan probe (place + 1) es) others) :
    Gives (Chain.scan probe place (e :: es))
      (match a with
      | some (.ok (some found)) => some (.ok (some found))
      | some (.ok none) => others
      | some (.error fault) => some (.error (.ofFactory e.name fault))
      | none => none) := by
  intro s
  rw [ending_scan_cons, ← asked s]
  rcases ending (probe place e.item) s with ⟨_ | _ | _ | found, t⟩
  · rfl
  · rfl
  · exact rest t
  · rfl

theorem scan {φ : Type} {probe : Nat → φ → Search σ (Except Fault (Option α))}
    {es : List (Entry φ)} (each : ∀ place, ∀ e ∈ es, ∃ a, Gives (probe place e.item) a)
    (place : Nat) : ∃ found, Gives (Chain.scan probe place es) found := by
  induction es generalizing place with
  | nil => exact ⟨some (.ok none), fun s => rfl⟩
  | cons e es ih =>
      obtain ⟨a, first⟩ := each place e List.mem_cons_self
      obtain ⟨others, rest⟩ :=
        ih (fun place x mem => each place x (List.mem_cons_of_mem e mem)) (place + 1)
      exact ⟨_, first.scan_cons rest⟩

theorem search {c : Client σ κ} {depth : Nat} {q : Query} {start : Nat}
    {found : Option (Except Error (Option (q.Offer σ κ)))}
    (scan : Gives (c.scanFrom depth q start) found) :
    Gives (c.search (depth + 1) q start) (found.map (c.conclude q start)) := by
  intro s
  rw [c.ending_search, scan s]

/-- A result that there is does not depend on how deep the search may nest. -/
theorem deeper {c : Client σ κ} {depth depth' : Nat} {q : Query} {start : Nat}
    {r : Except Error (q.Offer σ κ)} (gives : Gives (c.search depth q start) (some r))
    (le : depth ≤ depth') : Gives (c.search depth' q start) (some r) := by
  intro s
  have told := gives s
  rcases ended : ending (c.search depth q start) s with ⟨_ | r', t⟩
  · rw [ended] at told
    cases told
  · rw [ended] at told
    rw [ending_search_mono c le ended, ← told]

theorem settle {m : Search σ (Except Error α)} {r : Option (Except Error α)} (gives : Gives m r)
    (s : σ) : ((settleSearch m).run s).1 = r.getD (.error endlessSearch) := by
  rw [run_settleSearch, gives s]

end Gives

/-! ### Steady factories -/

/-- The answer of an inquiry, if every question on the way has a result. -/
def Inquiry.result (told : Origin → (q : Query) → Option (Except Error (q.Offer σ κ))) :
    Inquiry σ κ α → Option (Except Fault (Option α))
  | done answer => some answer
  | ask origin q next => (told origin q).bind fun r => (next r).result told

theorem Probe.Follows.gives {p : Probe σ κ α} {t : Inquiry σ κ α} (follows : p.Follows t)
    {answer : Origin → (q : Query) → Search σ (Except Error (q.Offer σ κ))}
    {told : Origin → (q : Query) → Option (Except Error (q.Offer σ κ))}
    (answers : ∀ origin q, Gives (answer origin q) (told origin q)) :
    Gives (p.run answer) (t.result told) := by
  induction follows with
  | done r => exact fun s => rfl
  | read _ ih => exact fun s => ih s s
  | @write state _ _ _ ih => exact fun s => ih state
  | @ask origin q next next' _ ih =>
      refine Gives.bind (answers origin q) ?_ ?_
      · intro r same
        rw [Inquiry.result, same]
        exact ih r
      · intro none
        rw [Inquiry.result, none]
        rfl

theorem Client.Steady.gives_search {c : Client σ κ} (steady : c.Steady) (depth : Nat) (q : Query)
    (start : Nat) : ∃ r, Gives (c.search depth q start) r := by
  -- What a probe is told comes from searches one level deeper.
  induction depth generalizing q start with
  | zero => exact ⟨none, fun s => rfl⟩
  | succ depth ih =>
      have asked : ∀ place, ∀ e ∈ (c.chain q.side).entries,
          ∃ a, Gives (c.probeAt depth q place e.item) a := by
        intro place e mem
        obtain ⟨t, follows⟩ := steady q.side e mem q ⟨place, c.baseUrl⟩
        choose told answers using fun origin q' => ih q' (startOf origin q.side place q')
        exact ⟨t.result told, follows.gives answers⟩
      obtain ⟨found, scan⟩ : ∃ found, Gives (c.scanFrom depth q start) found :=
        Gives.scan (fun place e mem => asked place e (List.mem_of_mem_drop mem)) start
      exact ⟨_, Gives.search scan⟩

/-! ### The factories of every client -/

/-- A factory that hands every question on and decorates what it is offered. -/
def Factory.decorating (key : Nat) (decorate : (q : Query) → q.Offer σ κ → q.Offer σ κ) :
    Factory σ κ where
  key
  probe q _ :=
    .ask .next q fun
      | .ok offer => .offer (decorate q offer)
      | .error error => .fail (.carried error)

theorem builtInProbe_ok (q : Query) :
    ∃ offer, (builtInProbe q : Probe σ κ (q.Offer σ κ)) = .done (.ok offer) := by
  cases q with
  | callAdapter shape tags => exact ⟨_, rfl⟩
  | stringConverter shape tags => exact ⟨_, rfl⟩
  | responseConverter shape tags =>
      rw [builtInProbe]
      split
      · exact ⟨_, rfl⟩
      · split
        · exact ⟨_, rfl⟩
        · split
          · exact ⟨_, rfl⟩
          · exact ⟨_, rfl⟩
  | requestConverter shape parameter method =>
      rw [builtInProbe]
      split
      · exact ⟨_, rfl⟩
      · exact ⟨_, rfl⟩

theorem defaultAdapterProbe_done (executor : Option Executor) (q : Query) :
    ∃ a, (defaultAdapterProbe executor q : Probe σ κ (q.Offer σ κ)) = .done a ∧
      (a = .error (.carried bareCall) ∨ ∃ offer, a = .ok offer) := by
  cases q with
  | callAdapter shape tags =>
      rw [defaultAdapterProbe]
      split
      · exact ⟨_, rfl, Or.inr ⟨_, rfl⟩⟩
      · split
        · exact ⟨_, rfl, Or.inl rfl⟩
        · exact ⟨_, rfl, Or.inr ⟨_, rfl⟩⟩
  | responseConverter shape tags => exact ⟨_, rfl, Or.inr ⟨_, rfl⟩⟩
  | requestConverter shape parameter method => exact ⟨_, rfl, Or.inr ⟨_, rfl⟩⟩
  | stringConverter shape tags => exact ⟨_, rfl, Or.inr ⟨_, rfl⟩⟩

/-- A client of a local server, with some adapter factories besides those of every client. -/
def localClient (adapters : Chain (Factory σ κ)) (eager : Bool) : Client σ κ where
  baseUrl := "http://localhost/"
  calls := .lossy
  converters := withBuiltIns .empty
  adapters := withDefault adapters none
  userConverters := .empty
  userAdapters := adapters
  executor := none
  eager

theorem Factory.Steady.of_done {f : Factory σ κ}
    (done : ∀ q, ∃ a : Except Fault (Option (q.Offer σ κ)), ∀ l, f.probe q l = .done a) :
    f.Steady := by
  intro q l
  obtain ⟨a, same⟩ := done q
  rw [same l]
  exact ⟨.done a, .done a⟩

theorem builtInConverters_steady (key : Nat) : (builtInConverters key : Factory σ κ).Steady := by
  refine .of_done fun q => ?_
  obtain ⟨offer, same⟩ := builtInProbe_ok (σ := σ) (κ := κ) q
  exact ⟨_, fun _ => same⟩

theorem defaultAdapter_steady (key : Nat) (executor : Option Executor) :
    (defaultAdapter key executor : Factory σ κ).Steady := by
  refine .of_done fun q => ?_
  obtain ⟨a, same, _⟩ := defaultAdapterProbe_done (σ := σ) (κ := κ) executor q
  exact ⟨a, fun _ => same⟩

end RemoteCall
