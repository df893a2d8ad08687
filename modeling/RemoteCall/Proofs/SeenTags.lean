import RemoteCall.Proofs.Blame

/-!
Which tags the factories see while a method is built.

`Client.Probed` are the questions that factories are asked in the course of a search, those included
that other factories ask. A build makes two searches (`Client.BuildScans`): the one for an adapter
goes with the tags of the adapter search, the one for a converter with the declared tags and no
others (`BuildScans.tags`). It makes no other search, so what it comes to depends on the answers to
these two alone (`ending_planFor_congr`). If the factories ask with the tags that they were asked
with, so do all questions on the way (`Probed.tags_eq`).
-/

namespace RemoteCall

variable {σ κ α : Type}

/-- From `s`, the probe asks the question in the state `t`, whatever it was told before. -/
inductive Probe.Asks (answer : Origin → (q : Query) → Search σ (Except Error (q.Offer σ κ))) :
    Probe σ κ α → σ → Origin → Query → σ → Prop where
  | here {origin : Origin} {q : Query} {next : Except Error (q.Offer σ κ) → Probe σ κ α} {s : σ} :
      Asks answer (.ask origin q next) s origin q s
  | read {next : σ → Probe σ κ α} {s t : σ} {origin : Origin} {q : Query}
      (rest : Asks answer (next s) s origin q t) : Asks answer (.read next) s origin q t
  | write {state s t : σ} {next : Probe σ κ α} {origin : Origin} {q : Query}
      (rest : Asks answer next state origin q t) : Asks answer (.write state next) s origin q t
  | later {origin origin' : Origin} {q q' : Query}
      {next : Except Error (q.Offer σ κ) → Probe σ κ α} {r : Except Error (q.Offer σ κ)}
      {s t u : σ} (told : ending (answer origin q) s = (some r, t))
      (rest : Asks answer (next r) t origin' q' u) : Asks answer (.ask origin q next) s origin' q' u

/-- Whatever the probe asks, it asks with the tags. -/
inductive Probe.KeepsTags (tags : List Metadata) : Probe σ κ α → Prop where
  | done (answer : Except Fault (Option α)) : KeepsTags tags (.done answer)
  | read {next : σ → Probe σ κ α} (each : ∀ s, KeepsTags tags (next s)) :
      KeepsTags tags (.read next)
  | write {state : σ} {next : Probe σ κ α} (rest : KeepsTags tags next) :
      KeepsTags tags (.write state next)
  | ask {origin : Origin} {q : Query} {next : Except Error (q.Offer σ κ) → Probe σ κ α}
      (same : q.tags = tags) (each : ∀ r, KeepsTags tags (next r)) :
      KeepsTags tags (.ask origin q next)

theorem Probe.Asks.tags_eq
    {answer : Origin → (q : Query) → Search σ (Except Error (q.Offer σ κ))} {p : Probe σ κ α}
    {s t : σ} {origin : Origin} {q : Query} (asks : p.Asks answer s origin q t)
    {tags : List Metadata} (keeps : p.KeepsTags tags) : q.tags = tags := by
  induction asks with
  | here =>
      cases keeps with
      | ask same _ => exact same
  | read _ ih =>
      cases keeps with
      | read each => exact ih (each _)
  | write _ ih =>
      cases keeps with
      | write rest => exact ih rest
  | later _ _ ih =>
      cases keeps with
      | ask _ each => exact ih (each _)

namespace Client

variable {c : Client σ κ}

/-- While the search for `q` is made from the place `start` on and from the state `s`, a factory is
asked the question: in the scan of the search itself, or because another factory asks. -/
inductive Probed (c : Client σ κ) :
    Nat → Query → Nat → σ → Entry (Factory σ κ) → Query → Prop where
  | scanned {depth : Nat} {q : Query} {start place : Nat} {s t : σ} {e : Entry (Factory σ κ)}
      (reaches : Chain.Reaches (c.probeAt depth q) start ((c.chain q.side).entries.drop start) s
        place e t) : Probed c (depth + 1) q start s e q
  | nested {depth : Nat} {q q' asked : Query} {start place : Nat} {s t u : σ}
      {e e' : Entry (Factory σ κ)} {origin : Origin}
      (reaches : Chain.Reaches (c.probeAt depth q) start ((c.chain q.side).entries.drop start) s
        place e t)
      (asks : (e.item.probe q ⟨place, c.baseUrl⟩).Asks (c.answers depth q.side place) t
        origin q' u)
      (inner : Probed c depth q' (startOf origin q.side place q') u e' asked) :
      Probed c (depth + 1) q start s e' asked

/-- The factories of the client ask with the tags that they were asked with. -/
def KeepsTags (c : Client σ κ) : Prop :=
  ∀ side, ∀ e ∈ (c.chain side).entries, ∀ q l, (e.item.probe q l).KeepsTags q.tags

theorem Probed.tags_eq {depth : Nat} {q asked : Query} {start : Nat} {s : σ}
    {e : Entry (Factory σ κ)} (probed : c.Probed depth q start s e asked) (keeps : c.KeepsTags) :
    asked.tags = q.tags := by
  induction probed with
  | scanned reaches => rfl
  | nested reaches asks _ ih =>
      have mem := List.mem_of_mem_drop reaches.mem
      exact ih.trans (asks.tags_eq (keeps _ _ mem _ _))

/-- A build looks for an adapter with one tag more if the method is awaited, and for a converter
with the declared tags. -/
theorem BuildScans.tags {e : MethodEntry σ} {s t : σ} {q : Query} (scans : c.BuildScans e s q t) :
    (q.side = .adapters → q.tags = [adapterTags e.record]) ∧
      (q.side = .converters → q.tags = [e.record.metadata]) := by
  cases scans with
  | adapter wellFormed =>
      constructor
      · intro _
        rfl
      · intro side
        cases side
  | converter wellFormed found usable =>
      constructor
      · intro side
        cases side
      · intro _
        rfl

/-- A build depends only on the answers to its two searches: it cannot tell two clients apart that
differ in others, be it in the tags alone. -/
theorem ending_planFor_congr {c' : Client σ κ} {e : MethodEntry σ} (calls : c'.calls = c.calls)
    (baseUrl : c'.baseUrl = c.baseUrl) {s : σ}
    (alike : ∀ q t, c.BuildScans e s q t → ending (c'.offer q) t = ending (c.offer q) t)
    (id : MethodId) : ending (planFor c' id e) s = ending (planFor c id e) s := by
  cases malformed : conventionFault? e.record.convention with
  | some reason => rw [ending_planFor_of_fault malformed, ending_planFor_of_fault malformed]
  | none =>
      rw [ending_planFor malformed, ending_planFor malformed, alike _ _ (.adapter malformed)]
      rcases found : ending (c.offer (.callAdapter (adapterShape e.record.convention)
        (adapterTags e.record))) s with ⟨_ | error | adapter, t⟩
      · rfl
      · rfl
      · cases unusable : payloadFault? e.record.verb adapter.responseType with
        | some reason => simp only [ending_finish_of_fault unusable]
        | none =>
            have searched := alike _ _ (.converter malformed found unusable)
            have same : planOf c' id e adapter = planOf c id e adapter := by
              unfold planOf
              rw [calls, baseUrl]
            simp only [ending_finish unusable, searched, same]

/-- What the factories may see of the tags of a method while it is built. -/
structure ShowsTags (c : Client σ κ) (e : MethodEntry σ) : Prop where
  /-- The search for an adapter goes with the declared tags, and with the tag that keeps off the
  callback executor if the method is awaited. -/
  adapters : ∀ {s q t}, c.BuildScans e s q t → q.side = .adapters → ∀ tags ∈ q.tags, ∀ tag,
    tags.contains tag = true ↔ e.record.metadata.contains tag = true ∨
      (e.record.isSuspend = true ∧ tag = Metadata.skipCallbackExecutor)
  /-- The search for a converter goes with the declared tags. -/
  converters : ∀ {s q t}, c.BuildScans e s q t → q.side = .converters →
    q.tags = [e.record.metadata]
  /-- Both searches are made: where one of them fails, the build fails. -/
  made : ∀ {s q t u error}, c.BuildScans e s q t →
    ending (c.offer q) t = (some (.error error), u) → ∀ id,
      ending (planFor c id e) s = (some (.error (error.forMethod e.qualified)), u)
  /-- No other search is made, with whatever tags: a client that answers these two alike makes the
  same plan or fails alike, and leaves the same plug-in state. -/
  only : ∀ {c' : Client σ κ} {s}, c'.calls = c.calls → c'.baseUrl = c.baseUrl →
    (∀ q t, c.BuildScans e s q t → ending (c'.offer q) t = ending (c.offer q) t) → ∀ id,
      ending (planFor c' id e) s = ending (planFor c id e) s
  /-- Other questions go with the tags of the search if the factories keep the tags. -/
  questions : c.KeepsTags → ∀ {s q t f asked}, c.BuildScans e s q t →
    c.Probed c.depth q 0 t f asked → asked.tags = q.tags

theorem contains_adapterTags_iff {r : MethodRecord σ} {tag : String} :
    (adapterTags r).contains tag = true ↔ r.metadata.contains tag = true ∨
      (r.isSuspend = true ∧ tag = Metadata.skipCallbackExecutor) := by
  rw [adapterTags]
  cases r.isSuspend with
  | true =>
      simp only [if_true, Metadata.contains_insert, Bool.or_eq_true, beq_iff_eq, true_and]
      exact Or.comm
  | false => simp

theorem showsTags (c : Client σ κ) (e : MethodEntry σ) : c.ShowsTags e := by
  constructor
  · intro s q t scans side tags mem tag
    rw [scans.tags.1 side, List.mem_singleton] at mem
    rw [mem]
    exact contains_adapterTags_iff
  · intro s q t scans side
    exact scans.tags.2 side
  · intro s q t u error scans failed id
    exact scans.ending_planFor failed id
  · intro c' s calls baseUrl alike id
    exact ending_planFor_congr calls baseUrl alike id
  · intro keeps s q t f asked _ probed
    exact probed.tags_eq keeps

end Client

/-- A factory that has no offers, but notes the tags that it is asked with. -/
def tagNotes (key : Nat) : Factory (List (List Metadata)) κ where
  key
  probe q _ := .modify (· ++ [q.tags]) .pass

/-- A client with such factories of both kinds. -/
def notingClient : Client (List (List Metadata)) Unit :=
  { localClient (Chain.empty.push "Notes" (tagNotes 1)) false with
    converters := withBuiltIns (Chain.empty.push "Notes" (tagNotes 2)) }

/-- Only the adapter factory sees the tag; the build fails for want of a converter. -/
example : (ending (planFor notingClient ⟨0⟩
      ⟨"Api.wait", emptyRequestMethod "wait" (.suspend (.named "User"))⟩) []).2 =
    [[Metadata.empty.insert Metadata.skipCallbackExecutor], [.empty]] := rfl

end RemoteCall
