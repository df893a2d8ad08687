import Mathlib.Data.List.Forall2
import RemoteCall.Proofs.Inquiry
import RemoteCall.Proofs.Registrations

/-!
Registering a service on a client that validates eagerly.

A client with steady factories makes the same plan of a declaration whenever it is asked and under
whatever id (`Client.Steady.builds`), so registering eagerly can be compared with registering on the
same client without validation, where plans are made at the first use. `registers_eagerly` says that
they agree: registration succeeds if all first uses would, and then commits the plans that those
would make; else it fails as the first failing one would, and the registry is as before but for its
counter.
-/

namespace RemoteCall

variable {σ κ : Type}

/-- The place of a method. -/
abbrev MethodSlot (σ κ : Type) := Slot (MethodEntry σ) (Plan σ κ)

/-! ### Plans of steady clients -/

/-- The same plan under another id. -/
def Plan.withId (id : MethodId) (plan : Plan σ κ) : Plan σ κ := { plan with id := id }

/-- The same client, but plans are made at the first use. -/
def Client.lazy (c : Client σ κ) : Client σ κ := { c with eager := false }

/-- The build of a declaration ends in the same way from every plug-in state and for every id. -/
def Client.Builds (c : Client σ κ) (entry : MethodEntry σ) (out : Except Error (Plan σ κ)) : Prop :=
  ∀ id s, ((settleSearch (planFor c id entry)).run s).1 = out.map (Plan.withId id)

theorem Client.search_lazy (c : Client σ κ) (depth : Nat) (q : Query) (start : Nat) :
    c.lazy.search depth q start = c.search depth q start := by
  induction depth generalizing q start with
  | zero => rfl
  | succ depth ih =>
      have chain : c.lazy.chain q.side = c.chain q.side := by
        cases q.side with
        | adapters => rfl
        | converters => rfl
      have probes : c.lazy.probeAt depth q = c.probeAt depth q := by
        funext place f
        have told : c.lazy.answers depth q.side place = c.answers depth q.side place := by
          funext origin q'
          exact ih q' _
        rw [probeAt, probeAt, told]
        rfl
      have scans : c.lazy.scanFrom depth q start = c.scanFrom depth q start := by
        rw [scanFrom, scanFrom, chain, probes]
      have concludes : c.lazy.conclude q start = c.conclude q start := by
        cases q with
        | callAdapter shape tags => rfl
        | responseConverter shape tags => rfl
        | requestConverter shape parameter method => rfl
        | stringConverter shape tags => rfl
      rw [search_succ, search_succ, scans, concludes]

/-- When plans are made makes no difference to them. -/
theorem planFor_lazy (c : Client σ κ) (id : MethodId) (entry : MethodEntry σ) :
    planFor c.lazy id entry = planFor c id entry := by
  have offers : c.lazy.offer = c.offer := by
    funext q
    exact c.search_lazy c.depth q 0
  have finishes : planFor.finish c.lazy id entry = planFor.finish c id entry := by
    funext r adapter
    rw [planFor.finish, planFor.finish, offers]
    rfl
  rw [planFor, planFor, offers, finishes]

theorem Gives.ending_eq {α : Type} {m : Search σ α} {r : Option α} (gives : Gives m r) (s : σ) :
    ending m s = (r, (ending m s).2) :=
  Prod.ext (gives s) rfl

theorem Client.Steady.gives_offer {c : Client σ κ} (steady : c.Steady) (q : Query) :
    ∃ r, Gives (c.offer q) r :=
  steady.gives_search c.depth q 0

theorem Client.Steady.gives_finish {c : Client σ κ} (steady : c.Steady) (entry : MethodEntry σ)
    (adapter : CallAdapter σ κ) :
    ∃ r : Option (Except Error (Plan σ κ)), ∀ id,
      Gives (planFor.finish c id entry entry.record adapter)
        (r.map (Except.map (Plan.withId id))) := by
  cases unusable : payloadFault? entry.record.verb adapter.responseType with
  | some reason =>
      refine ⟨some (.error (.shape entry.qualified reason)), fun id s => ?_⟩
      rw [ending_finish_of_fault unusable]
      rfl
  | none =>
      obtain ⟨b, converters⟩ :=
        steady.gives_offer (.responseConverter adapter.responseType entry.record.metadata)
      rcases b with _ | error | converter
      · refine ⟨none, fun id s => ?_⟩
        rw [ending_finish unusable, converters.ending_eq]
        rfl
      · refine ⟨some (.error (error.forMethod entry.qualified)), fun id s => ?_⟩
        rw [ending_finish unusable, converters.ending_eq]
        rfl
      · refine ⟨some (.ok (planOf c ⟨0⟩ entry adapter converter)), fun id s => ?_⟩
        rw [ending_finish unusable, converters.ending_eq]
        rfl

theorem Client.Steady.gives_planFor {c : Client σ κ} (steady : c.Steady) (entry : MethodEntry σ) :
    ∃ r : Option (Except Error (Plan σ κ)),
      ∀ id, Gives (planFor c id entry) (r.map (Except.map (Plan.withId id))) := by
  cases malformed : conventionFault? entry.record.convention with
  | some reason =>
      refine ⟨some (.error (.configuration (some entry.qualified) reason)), fun id s => ?_⟩
      rw [ending_planFor_of_fault malformed]
      rfl
  | none =>
      obtain ⟨a, adapters⟩ := steady.gives_offer
        (.callAdapter (adapterShape entry.record.convention) (adapterTags entry.record))
      rcases a with _ | error | adapter
      · refine ⟨none, fun id s => ?_⟩
        rw [ending_planFor malformed, adapters.ending_eq]
        rfl
      · refine ⟨some (.error (error.forMethod entry.qualified)), fun id s => ?_⟩
        rw [ending_planFor malformed, adapters.ending_eq]
        rfl
      · obtain ⟨r, finishes⟩ := steady.gives_finish entry adapter
        refine ⟨r, fun id s => ?_⟩
        rw [ending_planFor malformed, adapters.ending_eq]
        exact finishes id _

/-- A steady client's builds depend on the declaration alone. -/
theorem Client.Steady.builds {c : Client σ κ} (steady : c.Steady) (entry : MethodEntry σ) :
    ∃ out, c.Builds entry out := by
  obtain ⟨r, gives⟩ := steady.gives_planFor entry
  refine ⟨r.getD (.error endlessSearch), fun id s => ?_⟩
  rw [(gives id).settle s]
  cases r with
  | none => rfl
  | some r => rfl

theorem Client.Builds.cases {c : Client σ κ} {entry : MethodEntry σ}
    {out : Except Error (Plan σ κ)} (builds : c.Builds entry out) (id : MethodId) (s : σ) :
    (∃ error t, (settleSearch (planFor c id entry)).run s = (.error error, t) ∧
      out = .error error) ∨
    ∃ plan t, (settleSearch (planFor c id entry)).run s = (.ok (plan.withId id), t) ∧
      out = .ok plan := by
  have built := builds id s
  rcases ran : (settleSearch (planFor c id entry)).run s with ⟨r, t⟩
  rw [ran] at built
  cases out with
  | error error => exact Or.inl ⟨error, t, congrArg (·, t) built, rfl⟩
  | ok plan => exact Or.inr ⟨plan, t, congrArg (·, t) built, rfl⟩

/-! ### Planning several methods -/

/-- The error of the first build that has failed. -/
def firstError {α : Type} (outs : List (Except Error α)) : Option Error :=
  outs.findSome? fun
    | .ok _ => none
    | .error error => some error

theorem firstError_eq_none {α : Type} {outs : List (Except Error α)} :
    firstError outs = none ↔ ∀ out ∈ outs, ∃ a, out = .ok a := by
  rw [firstError, List.findSome?_eq_none_iff]
  refine forall₂_congr fun out _ => ?_
  cases out with
  | ok a => exact ⟨fun _ => ⟨a, rfl⟩, fun _ => rfl⟩
  | error error =>
      constructor
      · rintro ⟨⟩
      · rintro ⟨a, ⟨⟩⟩

namespace Engine

/-- Makes the plans for some slots, up to the first that fails; they are not kept. -/
def planAll (h : ClientHandle σ κ) :
    List (MethodSlot σ κ) → StateM σ (Option Error)
  | [] => pure none
  | s :: slots => do
    match ← makePlan h s.id s.entry with
    | .error error => return some error
    | .ok _ => planAll h slots

section Planning

variable {h : ClientHandle σ κ} {out : MethodEntry σ → Except Error (Plan σ κ)}

theorem run_planAll_cons (s : MethodSlot σ κ)
    (slots : List (MethodSlot σ κ)) (state : σ) :
    (planAll h (s :: slots)).run state =
      match (makePlan h s.id s.entry).run state with
      | (.error error, t) => (some error, t)
      | (.ok _, t) => (planAll h slots).run t := by
  rw [planAll, StateT.run_bind]
  rcases (makePlan h s.id s.entry).run state with ⟨_ | _, t⟩
  · rfl
  · rfl

theorem run_resolveAll_cons (id : MethodId) (ids : List MethodId) (e : Engine σ κ) :
    (resolveAll h (id :: ids)).run e =
      match (resolve h id).run e with
      | (.error error, e') => (some error, e')
      | (.ok _, e') => (resolveAll h ids).run e' := by
  rw [resolveAll, StateT.run_bind]
  rcases (resolve h id).run e with ⟨_ | _, t⟩
  · rfl
  · rfl

/-- Planning ends with the error of the first build that fails. -/
theorem planAll_fst (builds : ∀ entry, h.client.Builds entry (out entry))
    (slots : List (MethodSlot σ κ)) (state : σ) :
    ((planAll h slots).run state).1 = firstError (slots.map fun s => out s.entry) := by
  induction slots generalizing state with
  | nil => rfl
  | cons s slots ih =>
      rw [run_planAll_cons, makePlan, List.map_cons, firstError, List.findSome?_cons]
      rcases (builds s.entry).cases s.id state with
        ⟨error, t, ran, expected⟩ | ⟨plan, t, ran, expected⟩
      · rw [ran, expected]
      · rw [ran, expected]
        exact ih t

/-- Later methods are not planned if one fails. -/
theorem planAll_take (builds : ∀ entry, h.client.Builds entry (out entry))
    {slots : List (MethodSlot σ κ)} {i : Nat} {error : Error}
    (fails : slots[i]?.map (fun s => out s.entry) = some (.error error)) (state : σ) :
    (planAll h (slots.take (i + 1))).run state = (planAll h slots).run state := by
  induction slots generalizing i state with
  | nil => rfl
  | cons s slots ih =>
      rw [List.take_succ_cons, run_planAll_cons, run_planAll_cons, makePlan]
      rcases (builds s.entry).cases s.id state with ⟨_, t, ran, _⟩ | ⟨plan, t, ran, expected⟩
      · rw [ran]
      · rw [ran]
        cases i with
        | zero =>
            have failed : out s.entry = .error error := Option.some.inj fails
            rw [expected] at failed
            cases failed
        | succ i => exact ih fails t

/-- Resolving pending methods makes their plans one after the other, and keeps what is made. -/
theorem run_resolveAll (builds : ∀ entry, h.client.Builds entry (out entry)) {k : Nat}
    {e : Engine σ κ} (opened : h.registry < e.registries.length)
    {slots : List (MethodSlot σ κ)} (distinct : (slots.map Slot.id).Nodup)
    (pending : ∀ s ∈ slots, (e.registryOf h).Pending s.id s.entry)
    (behind : ∀ s ∈ slots, ∀ i, (e.registryOf h).slotOf? s.id = some i → k ≤ i) :
    ∃ r', Registry.Filled k (e.registryOf h) r' ∧
      (resolveAll h (slots.map Slot.id)).run e =
        (((planAll h slots).run e.plugins).1, { e with
          plugins := ((planAll h slots).run e.plugins).2
          registries := e.registries.set h.registry r' }) ∧
      (firstError (slots.map fun s => out s.entry) = none →
        ∀ s ∈ slots, ∃ plan, out s.entry = .ok plan ∧ r'.get? s.id = some (plan.withId s.id)) := by
  -- The methods whose turn has not come stay pending, since a commit is for one id only.
  induction slots generalizing e with
  | nil =>
      refine ⟨e.registryOf h, .refl, ?_, fun _ s mem => absurd mem List.not_mem_nil⟩
      rw [set_registryOf]
      rfl
  | cons s slots ih =>
      have first := pending s List.mem_cons_self
      obtain ⟨i, found, resolved⟩ := run_resolve_of_pending first
      rw [List.map_cons, run_resolveAll_cons, run_planAll_cons, List.map_cons, firstError,
        List.findSome?_cons]
      rw [makePlan] at resolved ⊢
      rcases (builds s.entry).cases s.id e.plugins with
        ⟨error, t, ran, expected⟩ | ⟨plan, t, ran, expected⟩
      · refine ⟨e.registryOf h, .refl, ?_, ?_⟩
        · rw [resolved, ran, set_registryOf]
        · rw [expected]
          rintro ⟨⟩
      · rw [resolved, ran, expected]
        let e' : Engine σ κ := { e with
          plugins := t
          registries := e.registries.set h.registry ((e.registryOf h).commit i (plan.withId s.id)) }
        have now : e'.registryOf h = (e.registryOf h).commit i (plan.withId s.id) :=
          registryOf_set opened _ t
        have others := List.nodup_cons.mp distinct
        have apart : ∀ s' ∈ slots, s'.id ≠ s.id := by
          intro s' mem same
          exact others.1 (same ▸ List.mem_map_of_mem mem)
        obtain ⟨r', filled, rest, planned⟩ := ih (e := e')
          (by rwa [List.length_set]) others.2
          (by
            intro s' mem
            rw [now]
            exact (pending s' (List.mem_cons_of_mem s mem)).commit_other found _ (apart s' mem))
          (by
            intro s' mem j
            rw [now, Registry.slotOf?_commit]
            exact behind s' (List.mem_cons_of_mem s mem) j)
        rw [now] at filled
        refine ⟨r', ?_, ?_, ?_⟩
        · exact Registry.Filled.trans
            (.commit _ (behind s List.mem_cons_self i found) .refl) filled
        · have twice : e'.registries.set h.registry r' = e.registries.set h.registry r' :=
            List.set_set ..
          rw [twice] at rest
          exact rest
        · intro none s' mem
          rcases List.mem_cons.mp mem with rfl | mem
          · exact ⟨plan, expected, filled.get?_of_some
              (Registry.get?_commit_self found first.unplanned _)⟩
          · exact planned none s' mem

end Planning

/-! ### The slots of a service -/

/-- The slots that methods get which are registered after `n` others. -/
def newSlots (κ : Type) (service : String) : Nat → List (MethodRecord σ) → List (MethodSlot σ κ)
  | _, [] => []
  | n, m :: ms =>
    ⟨Registry.nthId (n + 1), ⟨qualifiedName service m.name, m⟩, none, true⟩ ::
      newSlots κ service (n + 1) ms

section NewSlots

variable {service : String} {n : Nat} {ms : List (MethodRecord σ)}
  {r : Registry (MethodEntry σ) (Plan σ κ)}

theorem addMethods_eq (reached : r.Reached n) (few : n + ms.length < UInt64.size) :
    addMethods service r ms =
      ((newSlots κ service n ms).map fun s => (s.entry.record.name, s.id),
        { nextId := r.nextId + UInt64.ofNat ms.length
          slots := r.slots ++ newSlots κ service n ms }) := by
  induction ms generalizing r n with
  | nil =>
      have same : r.nextId + UInt64.ofNat 0 = r.nextId := UInt64.add_zero _
      simp only [addMethods, newSlots, List.map_nil, List.length_nil, List.append_nil, same]
  | cons m ms ih =>
      rw [List.length_cons] at few
      have added := Registry.register_eq reached (by omega) ⟨qualifiedName service m.name, m⟩
      have next := reached.register ⟨qualifiedName service m.name, m⟩
      simp only [added] at next
      have number : r.nextId + 1 + UInt64.ofNat ms.length =
          r.nextId + UInt64.ofNat (ms.length + 1) := by
        rw [UInt64.add_assoc, UInt64.add_comm 1, UInt64.ofNat_add]
        rfl
      simp only [addMethods, added, ih next (by omega), number, newSlots, List.append_assoc,
        List.map_cons, List.length_cons, List.singleton_append]

theorem length_newSlots :
    (newSlots κ service n ms).length = ms.length := by
  induction ms generalizing n with
  | nil => rfl
  | cons m ms ih => rw [newSlots, List.length_cons, ih, List.length_cons]

theorem map_entry_newSlots :
    (newSlots κ service n ms).map Slot.entry =
      ms.map fun m => ⟨qualifiedName service m.name, m⟩ := by
  induction ms generalizing n with
  | nil => rfl
  | cons m ms ih => rw [newSlots, List.map_cons, ih, List.map_cons]

theorem getElem?_newSlots {i : Nat} {m : MethodRecord σ} (there : ms[i]? = some m) :
    ∃ s, (newSlots κ service n ms)[i]? = some s ∧ s.entry = ⟨qualifiedName service m.name, m⟩ := by
  have entry : ((newSlots κ service n ms).map Slot.entry)[i]? =
      some ⟨qualifiedName service m.name, m⟩ := by
    rw [map_entry_newSlots, List.getElem?_map, there]
    rfl
  rw [List.getElem?_map] at entry
  obtain ⟨s, found, same⟩ := Option.map_eq_some_iff.mp entry
  exact ⟨s, found, same⟩

theorem take_newSlots (i : Nat) :
    (newSlots κ service n ms).take i =
      newSlots κ service n (ms.take i) := by
  induction ms generalizing n i with
  | nil =>
      rw [List.take_nil, newSlots, List.take_nil]
  | cons m ms ih =>
      cases i with
      | zero => rfl
      | succ i => rw [newSlots, List.take_succ_cons, ih, List.take_succ_cons, newSlots]

theorem fresh_newSlots {s : MethodSlot σ κ} (mem : s ∈ newSlots κ service n ms) :
    s.live = true ∧ s.committed = none := by
  induction ms generalizing n with
  | nil => cases mem
  | cons m ms ih =>
      rcases List.mem_cons.mp mem with rfl | mem
      · exact ⟨rfl, rfl⟩
      · exact ih mem

theorem lt_id_newSlots (few : n + ms.length < UInt64.size) {s : MethodSlot σ κ}
    (mem : s ∈ newSlots κ service n ms) : n < s.id.number.toNat := by
  induction ms generalizing n with
  | nil => cases mem
  | cons m ms ih =>
      rw [List.length_cons] at few
      rcases List.mem_cons.mp mem with rfl | mem
      · rw [Registry.toNat_nthId (by omega)]
        exact Nat.lt_succ_self n
      · exact Nat.lt_of_succ_lt (ih (by omega) mem)

theorem nodup_newSlots (few : n + ms.length < UInt64.size) :
    ((newSlots κ service n ms).map Slot.id).Nodup := by
  induction ms generalizing n with
  | nil => exact List.nodup_nil
  | cons m ms ih =>
      rw [List.length_cons] at few
      rw [newSlots, List.map_cons, List.nodup_cons]
      constructor
      · intro mem
        obtain ⟨s, there, same⟩ := List.mem_map.mp mem
        have lt := lt_id_newSlots (by omega) there
        rw [same, Registry.toNat_nthId (by omega)] at lt
        exact Nat.lt_irrefl _ lt
      · exact ih (by omega)

/-- The results of the builds of a service's methods. -/
def outsOf (out : MethodEntry σ → Except Error (Plan σ κ)) (service : String)
    (ms : List (MethodRecord σ)) : List (Except Error (Plan σ κ)) :=
  ms.map fun m => out ⟨qualifiedName service m.name, m⟩

theorem map_out_newSlots (out : MethodEntry σ → Except Error (Plan σ κ)) :
    (newSlots κ service n ms).map (fun s => out s.entry) = outsOf out service ms := by
  have entries : (newSlots κ service n ms).map Slot.entry =
    ms.map fun m => ⟨qualifiedName service m.name, m⟩ := map_entry_newSlots
  have outs := congrArg (List.map out) entries
  rwa [List.map_map, List.map_map] at outs

/-- The slots of a service are found behind those that were there before. -/
theorem slotOf?_newSlots {r' : Registry (MethodEntry σ) (Plan σ κ)} (reached : r.Reached n)
    (few : n + ms.length < UInt64.size) (slots : r'.slots = r.slots ++ newSlots κ service n ms)
    {s : MethodSlot σ κ} (mem : s ∈ newSlots κ service n ms) :
    r'.Pending s.id s.entry ∧ ∀ i, r'.slotOf? s.id = some i → r.slots.length ≤ i := by
  obtain ⟨before, after, split⟩ := List.append_of_mem mem
  have whole : r'.slots = (r.slots ++ before) ++ s :: after := by
    rw [slots, split, List.append_assoc]
  have first : ∀ t ∈ r.slots ++ before, t.id ≠ s.id := by
    intro t there same
    rcases List.mem_append.mp there with old | new
    · have le := reached.id_le (by omega) t old
      have lt := lt_id_newSlots few mem
      rw [same] at le
      omega
    · have distinct : ((newSlots κ service n ms).map Slot.id).Nodup := nodup_newSlots few
      rw [split, List.map_append, List.map_cons, List.nodup_append] at distinct
      exact distinct.2.2 _ (List.mem_map_of_mem new) _ List.mem_cons_self same
  obtain ⟨live, vacant⟩ := fresh_newSlots mem
  refine ⟨Registry.pending_of_split whole first live vacant, fun i found => ?_⟩
  rw [Registry.slotOf?_of_split whole first live, List.length_append] at found
  have same := Option.some.inj found
  omega

/-- Taking the slots of a service out again leaves the live slots that were there before. -/
theorem liveSlots_rolledBack {r' : Registry (MethodEntry σ) (Plan σ κ)} (reached : r.Reached n)
    (few : n + ms.length < UInt64.size)
    (filled : Registry.Filled r.slots.length
      { nextId := r.nextId + UInt64.ofNat ms.length
        slots := r.slots ++ newSlots κ service n ms } r') :
    (((newSlots κ service n ms).map Slot.id).foldl Registry.remove r').liveSlots =
      r.liveSlots := by
  have front := filled.take
  simp only [List.take_left] at front
  have behind : (r'.slots.drop r.slots.length).map Slot.id =
      (newSlots κ service n ms).map Slot.id := by
    rw [List.map_drop, filled.ids, List.map_append]
    exact List.drop_left' (List.length_map ..)
  rw [Registry.liveSlots_foldl_remove, Registry.liveSlots,
    ← List.take_append_drop r.slots.length r'.slots, front, List.filter_append, List.filter_append]
  have kept : (r.slots.filter (·.live)).filter (fun s => decide (s.id ∉
      (newSlots κ service n ms).map Slot.id)) =
        r.slots.filter (·.live) := by
    refine List.filter_eq_self.mpr fun s mem => decide_eq_true fun taken => ?_
    obtain ⟨t, there, same⟩ := List.mem_map.mp taken
    have le := reached.id_le (by omega) s (List.mem_filter.mp mem).1
    have lt := lt_id_newSlots few there
    rw [same] at lt
    omega
  have gone : ((r'.slots.drop r.slots.length).filter (·.live)).filter (fun s => decide (s.id ∉
      (newSlots κ service n ms).map Slot.id)) = [] := by
    refine List.filter_eq_nil_iff.mpr fun s mem untaken => ?_
    have there := List.mem_map_of_mem (f := Slot.id) (List.mem_filter.mp mem).1
    rw [behind] at there
    exact of_decide_eq_true untaken there
  rw [kept, gone, List.append_nil, Registry.liveSlots]

end NewSlots

/-! ### Names -/

theorem duplicate?_eq_none {seen names : List String} :
    duplicate? seen names = none ↔ names.Nodup ∧ ∀ name ∈ names, name ∉ seen := by
  induction names generalizing seen with
  | nil => simp [duplicate?]
  | cons name names ih =>
      rw [duplicate?, List.nodup_cons]
      by_cases repeated : name ∈ seen
      · simp [repeated]
      · simp only [List.contains_eq_mem, repeated, decide_false, Bool.false_eq_true, if_false, ih,
          List.mem_cons, not_or, forall_eq_or_imp, not_false_eq_true, true_and]
        constructor
        · rintro ⟨nodup, apart⟩
          exact ⟨⟨fun mem => (apart name mem).1 rfl, nodup⟩, fun other mem => (apart other mem).2⟩
        · rintro ⟨⟨absent, nodup⟩, apart⟩
          exact ⟨nodup, fun other mem => ⟨fun same => absent (same ▸ mem), apart other mem⟩⟩

/-- The name reported is the first one that repeats an earlier one. -/
theorem duplicate?_eq_some {seen names : List String} {name : String}
    (found : duplicate? seen names = some name) :
    ∃ before after, names = before ++ name :: after ∧ before.Nodup ∧
      (name ∈ seen ∨ name ∈ before) ∧ ∀ other ∈ before, other ∉ seen := by
  induction names generalizing seen with
  | nil => cases found
  | cons first names ih =>
      rw [duplicate?] at found
      by_cases repeated : first ∈ seen
      · simp only [List.contains_eq_mem, repeated, decide_true, if_true] at found
        cases found
        exact ⟨[], names, rfl, List.nodup_nil, Or.inl repeated, nofun⟩
      · simp only [List.contains_eq_mem, repeated, decide_false, Bool.false_eq_true,
          if_false] at found
        obtain ⟨before, after, rfl, nodup, there, apart⟩ := ih found
        refine ⟨first :: before, after, rfl, ?_, ?_, ?_⟩
        · rw [List.nodup_cons]
          exact ⟨fun mem => apart first mem List.mem_cons_self, nodup⟩
        · rcases there with mem | mem
          · rcases List.mem_cons.mp mem with rfl | mem
            · exact Or.inr List.mem_cons_self
            · exact Or.inl mem
          · exact Or.inr (List.mem_cons_of_mem first mem)
        · intro other mem
          rcases List.mem_cons.mp mem with rfl | mem
          · exact repeated
          · exact fun old => apart other mem (List.mem_cons_of_mem first old)

/-! ### Registering -/

section Registering

variable {h : ClientHandle σ κ} {e : Engine σ κ} {d : ServiceDeclaration σ} {n : Nat}

/-- The service that a registration after `n` others gives. -/
def serviceOf (κ : Type) (d : ServiceDeclaration σ) (n : Nat) : Service :=
  ⟨d.name, (newSlots κ d.name n d.methods).map fun s => (s.entry.record.name, s.id)⟩

/-- The registry with the methods of a declaration behind those that were there before. -/
def withMethods (r : Registry (MethodEntry σ) (Plan σ κ)) (d : ServiceDeclaration σ) (n : Nat) :
    Registry (MethodEntry σ) (Plan σ κ) where
  nextId := r.nextId + UInt64.ofNat d.methods.length
  slots := r.slots ++ newSlots κ d.name n d.methods

theorem ids_serviceOf : (serviceOf κ d n).ids = (newSlots κ d.name n d.methods).map Slot.id := by
  rw [Service.ids, serviceOf, List.map_map]
  rfl

/-- The end of an eager registration: the methods are taken out again if one of them has failed. -/
def endEagerly (h : ClientHandle σ κ) (service : Service) :
    Option Error × Engine σ κ → Except Error Service × Engine σ κ
  | (none, e) => (.ok service, e)
  | (some error, e) => (.error error, { e with
      registries := e.registries.set h.registry
        (service.ids.foldl Registry.remove (e.registryOf h)) })

/-- The course of a registration. -/
theorem run_register (h : ClientHandle σ κ) (d : ServiceDeclaration σ) (e : Engine σ κ) :
    (register h d).run e =
      match duplicate? [] (d.methods.map (·.name)) with
      | some name =>
        (.error (.configuration (some (qualifiedName d.name name)) "Duplicate method name."), e)
      | none =>
        let added := addMethods d.name (e.registryOf h) d.methods
        let service : Service := ⟨d.name, added.1⟩
        let e₁ := { e with registries := e.registries.set h.registry added.2 }
        if h.client.eager then endEagerly h service ((resolveAll h service.ids).run e₁)
        else (.ok service, e₁) := by
  rw [register]
  cases duplicate? [] (d.methods.map (·.name)) with
  | some name => rfl
  | none =>
      cases h.client.eager with
      | false => rfl
      | true =>
          simp only [if_true, StateT.run_bind, StateT.run_get, pure_bind, setRegistry,
            StateT.run_modify]
          generalize (resolveAll h _).run _ = ran
          rcases ran with ⟨_ | error, e₂⟩
          · rfl
          · rfl

theorem duplicate?_of_nodup (distinct : (d.methods.map (·.name)).Nodup) :
    duplicate? [] (d.methods.map (·.name)) = none :=
  duplicate?_eq_none.mpr ⟨distinct, fun _ _ => List.not_mem_nil⟩

/-- A repeated name is reported before anything else is done. -/
theorem run_register_of_duplicate {name : String}
    (found : duplicate? [] (d.methods.map (·.name)) = some name) :
    (register h d).run e =
      (.error (.configuration (some (qualifiedName d.name name)) "Duplicate method name."), e) := by
  rw [run_register, found]

theorem duplicate?_of_not_nodup (repeated : ¬ (d.methods.map (·.name)).Nodup) :
    ∃ name, duplicate? [] (d.methods.map (·.name)) = some name := by
  refine Option.ne_none_iff_exists'.mp fun none => ?_
  exact repeated (duplicate?_eq_none.mp none).1

theorem run_register_lazily (lazily : h.client.eager = false)
    (distinct : (d.methods.map (·.name)).Nodup) (reached : (e.registryOf h).Reached n)
    (few : n + d.methods.length < UInt64.size) :
    (register h d).run e = (.ok (serviceOf κ d n), { e with
      registries := e.registries.set h.registry (withMethods (e.registryOf h) d n) }) := by
  rw [run_register, duplicate?_of_nodup distinct, addMethods_eq reached few]
  simp only [lazily, Bool.false_eq_true, if_false]
  rfl

/-- How an eager registration goes: it makes all plans, and keeps them or takes all methods out of
the registry again. -/
structure PlansAll (h : ClientHandle σ κ) (d : ServiceDeclaration σ) (e : Engine σ κ) (n : Nat)
    (out : MethodEntry σ → Except Error (Plan σ κ))
    (r' : Registry (MethodEntry σ) (Plan σ κ)) : Prop where
  filled : Registry.Filled (e.registryOf h).slots.length (withMethods (e.registryOf h) d n) r'
  planned : firstError (outsOf out d.name d.methods) = none →
    ∀ s ∈ newSlots κ d.name n d.methods, ∃ plan, out s.entry = .ok plan ∧
      r'.get? s.id = some (plan.withId s.id)
  succeeds : firstError (outsOf out d.name d.methods) = none →
    (register h d).run e = (.ok (serviceOf κ d n), { e with
      plugins := ((planAll h (newSlots κ d.name n d.methods)).run e.plugins).2
      registries := e.registries.set h.registry r' })
  fails : ∀ error, firstError (outsOf out d.name d.methods) = some error →
    (register h d).run e = (.error error, { e with
      plugins := ((planAll h (newSlots κ d.name n d.methods)).run e.plugins).2
      registries := e.registries.set h.registry
        (((newSlots κ d.name n d.methods).map Slot.id).foldl Registry.remove r') })

theorem run_register_eagerly {out : MethodEntry σ → Except Error (Plan σ κ)}
    (builds : ∀ entry, h.client.Builds entry (out entry)) (eager : h.client.eager = true)
    (opened : h.registry < e.registries.length) (distinct : (d.methods.map (·.name)).Nodup)
    (reached : (e.registryOf h).Reached n) (few : n + d.methods.length < UInt64.size) :
    ∃ r', PlansAll h d e n out r' := by
  let e₁ : Engine σ κ := { e with
    registries := e.registries.set h.registry (withMethods (e.registryOf h) d n) }
  have now : e₁.registryOf h = withMethods (e.registryOf h) d n := registryOf_set opened _ _
  have opened₁ : h.registry < e₁.registries.length := by rwa [List.length_set]
  have found : ∀ s ∈ newSlots κ d.name n d.methods, (e₁.registryOf h).Pending s.id s.entry ∧
      ∀ i, (e₁.registryOf h).slotOf? s.id = some i → (e.registryOf h).slots.length ≤ i := by
    intro s mem
    rw [now]
    exact slotOf?_newSlots reached few rfl mem
  obtain ⟨r', filled, ran, planned⟩ := run_resolveAll builds opened₁ (nodup_newSlots few)
    (fun s mem => (found s mem).1) (fun s mem => (found s mem).2)
  rw [now] at filled
  have twice : ∀ r'', e₁.registries.set h.registry r'' = e.registries.set h.registry r'' :=
    fun r'' => List.set_set ..
  have resolved : (resolveAll h (serviceOf κ d n).ids).run e₁ =
      (firstError (outsOf out d.name d.methods), { e with
        plugins := ((planAll h (newSlots κ d.name n d.methods)).run e.plugins).2
        registries := e.registries.set h.registry r' }) := by
    rw [ids_serviceOf, ran, planAll_fst builds, map_out_newSlots, twice]
  have course : (register h d).run e =
      endEagerly h (serviceOf κ d n) ((resolveAll h (serviceOf κ d n).ids).run e₁) := by
    rw [run_register, duplicate?_of_nodup distinct, addMethods_eq reached few]
    simp only [eager, if_true]
    rfl
  rw [map_out_newSlots] at planned
  refine ⟨r', filled, planned, fun none => ?_, fun error failed => ?_⟩
  · rw [course, resolved, none]
    rfl
  · rw [course, resolved, failed]
    simp only [endEagerly, registryOf_set opened, List.set_set, ids_serviceOf]

/-- The plug-ins are left as planning all methods leaves them. -/
theorem plugins_register_eagerly {out : MethodEntry σ → Except Error (Plan σ κ)}
    (builds : ∀ entry, h.client.Builds entry (out entry)) (eager : h.client.eager = true)
    (opened : h.registry < e.registries.length) (distinct : (d.methods.map (·.name)).Nodup)
    (reached : (e.registryOf h).Reached n) (few : n + d.methods.length < UInt64.size) :
    ((register h d).run e).2.plugins =
      ((planAll h (newSlots κ d.name n d.methods)).run e.plugins).2 := by
  obtain ⟨_, course⟩ := run_register_eagerly builds eager opened distinct reached few
  cases result : firstError (outsOf out d.name d.methods) with
  | none => rw [course.succeeds result]
  | some error => rw [course.fails error result]

/-- The first use of a method that the client has ends with `out`, whenever it is and under whatever
id the method is registered. -/
def FirstUse (c : Client σ κ) (entry : MethodEntry σ) (out : Except Error (Plan σ κ)) : Prop :=
  ∀ (e : Engine σ κ) (registry : Nat) (id : MethodId),
    (e.registryOf ⟨c, registry⟩).Pending id entry →
      ((resolve ⟨c, registry⟩ id).run e).1 = out.map (Plan.withId id)

/-- Registering on a client that validates eagerly, beside the first uses of the methods (`outs`) on
the same client without validation. -/
structure RegistersEagerly (h : ClientHandle σ κ) (d : ServiceDeclaration σ) (e : Engine σ κ)
    (outs : List (Except Error (Plan σ κ))) : Prop where
  firstUses : List.Forall₂ (fun m out =>
    FirstUse h.client.lazy ⟨qualifiedName d.name m.name, m⟩ out) d.methods outs
  /-- Without validation, methods with different names are registered and have no plans yet. -/
  lazily : (d.methods.map (·.name)).Nodup → ∀ {registry n : Nat} {e₀ : Engine σ κ},
    registry < e₀.registries.length →
    (e₀.registryOf ⟨h.client.lazy, registry⟩).Reached n → n + d.methods.length < UInt64.size →
      ∃ service e₁, (register ⟨h.client.lazy, registry⟩ d).run e₀ = (.ok service, e₁) ∧
        ∀ (i : Nat) (m : MethodRecord σ), d.methods[i]? = some m →
          ∃ id, service.methods[i]? = some (m.name, id) ∧
            (e₁.registryOf ⟨h.client.lazy, registry⟩).Pending id ⟨qualifiedName d.name m.name, m⟩
  ok_iff : (∃ service, ((register h d).run e).1 = .ok service) ↔
    (d.methods.map (·.name)).Nodup ∧ ∀ out ∈ outs, ∃ plan, out = .ok plan
  /-- After a registration every method has the plan that its first use would have made, and the
  methods that were there before are as they were. -/
  committed : ∀ {service e'}, (register h d).run e = (.ok service, e') →
    service.name = d.name ∧ service.methods.length = d.methods.length ∧
      (e.registryOf h).slots <+: (e'.registryOf h).slots ∧
        ∀ (i : Nat) (m : MethodRecord σ), d.methods[i]? = some m →
          ∃ id plan, service.methods[i]? = some (m.name, id) ∧ outs[i]? = some (.ok plan) ∧
            (e'.registryOf h).get? id = some (plan.withId id)
  /-- The first use that would fail makes the registration fail in the same way. The methods after
  it are not probed: the plug-ins are left as if they were not declared. All live slots are as
  before, and nothing else of the engine has changed. -/
  rolledBack : (d.methods.map (·.name)).Nodup → ∀ {i : Nat} {error : Error},
    outs[i]? = some (.error error) → (∀ j < i, ∃ plan, outs[j]? = some (.ok plan)) →
      ∃ r' t, (register h d).run e = (.error error, { e with
          plugins := t
          registries := e.registries.set h.registry r' }) ∧
        ((register h ⟨d.name, d.methods.take (i + 1)⟩).run e).2.plugins = t ∧
        r'.liveSlots = (e.registryOf h).liveSlots ∧
        r'.nextId = (e.registryOf h).nextId + UInt64.ofNat d.methods.length
  /-- The first name that repeats another one is reported, and nothing at all has changed. -/
  duplicate : ¬ (d.methods.map (·.name)).Nodup → ∃ before name after,
    d.methods.map (·.name) = before ++ name :: after ∧ before.Nodup ∧ name ∈ before ∧
      (register h d).run e =
        (.error (.configuration (some (qualifiedName d.name name)) "Duplicate method name."), e)

theorem firstUse_of_builds {c : Client σ κ} {entry : MethodEntry σ}
    {out : Except Error (Plan σ κ)} (builds : c.Builds entry out) : FirstUse c.lazy entry out := by
  intro e registry id pending
  obtain ⟨_, _, resolved⟩ := run_resolve_of_pending pending
  rw [resolved, makePlan, planFor_lazy]
  rcases builds.cases id e.plugins with ⟨error, t, ran, expected⟩ | ⟨plan, t, ran, expected⟩
  · rw [ran, expected]
    rfl
  · rw [ran, expected]
    rfl

theorem firstError_eq_some {α : Type} {outs : List (Except Error α)} {i : Nat} {error : Error}
    (fails : outs[i]? = some (.error error)) (before : ∀ j < i, ∃ a, outs[j]? = some (.ok a)) :
    firstError outs = some error := by
  induction outs generalizing i with
  | nil => cases fails
  | cons out outs ih =>
      rw [firstError, List.findSome?_cons]
      cases i with
      | zero =>
          cases Option.some.inj fails
          rfl
      | succ i =>
          obtain ⟨a, first⟩ := before 0 (Nat.zero_lt_succ i)
          cases Option.some.inj first
          exact ih fails fun j lt => before (j + 1) (Nat.succ_lt_succ lt)

/-- A lazy registration leaves all methods pending. -/
theorem pending_of_register_lazily (lazily : h.client.eager = false)
    (opened : h.registry < e.registries.length) (distinct : (d.methods.map (·.name)).Nodup)
    (reached : (e.registryOf h).Reached n) (few : n + d.methods.length < UInt64.size) :
    ∃ service e₁, (register h d).run e = (.ok service, e₁) ∧
      ∀ (i : Nat) (m : MethodRecord σ), d.methods[i]? = some m →
        ∃ id, service.methods[i]? = some (m.name, id) ∧
          (e₁.registryOf h).Pending id ⟨qualifiedName d.name m.name, m⟩ := by
  refine ⟨_, _, run_register_lazily lazily distinct reached few, fun i m there => ?_⟩
  obtain ⟨s, found, same⟩ := getElem?_newSlots (κ := κ) (n := n) there
  refine ⟨s.id, ?_, ?_⟩
  · rw [serviceOf, List.getElem?_map, found, Option.map_some, same]
  · have now := registryOf_set opened (withMethods (e.registryOf h) d n) e.plugins
    rw [now, ← same]
    exact (slotOf?_newSlots reached few rfl (List.mem_of_getElem? found)).1

section Eagerly

variable {out : MethodEntry σ → Except Error (Plan σ κ)}
  {r' : Registry (MethodEntry σ) (Plan σ κ)}

/-- After a successful registration the old slots are there, and every method has its plan. -/
theorem PlansAll.committed (course : PlansAll h d e n out r')
    (opened : h.registry < e.registries.length) {service : Service} {e' : Engine σ κ}
    (ran : (register h d).run e = (.ok service, e')) :
    service.name = d.name ∧ service.methods.length = d.methods.length ∧
      (e.registryOf h).slots <+: (e'.registryOf h).slots ∧
        ∀ (i : Nat) (m : MethodRecord σ), d.methods[i]? = some m →
          ∃ id plan, service.methods[i]? = some (m.name, id) ∧
            (outsOf out d.name d.methods)[i]? = some (.ok plan) ∧
              (e'.registryOf h).get? id = some (plan.withId id) := by
  cases result : firstError (outsOf out d.name d.methods) with
  | some error =>
      rw [course.fails error result] at ran
      cases ran
  | none =>
      cases (course.succeeds result).symm.trans ran
      have now := registryOf_set opened r'
        ((planAll h (newSlots κ d.name n d.methods)).run e.plugins).2
      have front := course.filled.take
      simp only [withMethods, List.take_left] at front
      refine ⟨rfl, ?_, ?_, fun i m there => ?_⟩
      · rw [serviceOf, List.length_map, length_newSlots]
      · rw [now, ← front]
        exact List.take_prefix ..
      · obtain ⟨s, found, same⟩ := getElem?_newSlots (κ := κ) (n := n) there
        obtain ⟨plan, expected, kept⟩ := course.planned result s (List.mem_of_getElem? found)
        refine ⟨s.id, plan, ?_, ?_, ?_⟩
        · rw [serviceOf, List.getElem?_map, found, Option.map_some, same]
        · rw [outsOf, List.getElem?_map, there, Option.map_some, ← expected, same]
        · rw [now, kept]

theorem PlansAll.ok_iff (course : PlansAll h d e n out r') :
    (∃ service, ((register h d).run e).1 = .ok service) ↔
      ∀ o ∈ outsOf out d.name d.methods, ∃ plan, o = .ok plan := by
  rw [← firstError_eq_none]
  cases result : firstError (outsOf out d.name d.methods) with
  | none =>
      rw [course.succeeds result]
      exact ⟨fun _ => rfl, fun _ => ⟨_, rfl⟩⟩
  | some error =>
      rw [course.fails error result]
      constructor
      · rintro ⟨_, ⟨⟩⟩
      · exact nofun

/-- What the methods behind the first bad one are, makes no difference to the plug-ins. -/
theorem plugins_register_take (builds : ∀ entry, h.client.Builds entry (out entry))
    (eager : h.client.eager = true) (opened : h.registry < e.registries.length)
    (distinct : (d.methods.map (·.name)).Nodup) (reached : (e.registryOf h).Reached n)
    (few : n + d.methods.length < UInt64.size) {i : Nat} {error : Error}
    (failed : (outsOf out d.name d.methods)[i]? = some (.error error)) :
    ((register h ⟨d.name, d.methods.take (i + 1)⟩).run e).2.plugins =
      ((planAll h (newSlots κ d.name n d.methods)).run e.plugins).2 := by
  have distinct' : ((d.methods.take (i + 1)).map (·.name)).Nodup := by
    rw [List.map_take]
    exact distinct.sublist (List.take_sublist ..)
  have few' : n + (d.methods.take (i + 1)).length < UInt64.size := by
    have le := List.length_take_le' (i + 1) d.methods
    omega
  have failed' : (newSlots κ d.name n d.methods)[i]?.map (fun s => out s.entry) =
      some (.error error) := by
    rw [← List.getElem?_map, map_out_newSlots]
    exact failed
  rw [plugins_register_eagerly builds eager opened distinct' reached few', ← take_newSlots,
    planAll_take builds failed']

end Eagerly

theorem run_register_of_not_nodup (repeated : ¬ (d.methods.map (·.name)).Nodup) :
    ∃ before name after, d.methods.map (·.name) = before ++ name :: after ∧ before.Nodup ∧
      name ∈ before ∧ (register h d).run e =
        (.error (.configuration (some (qualifiedName d.name name)) "Duplicate method name."),
          e) := by
  obtain ⟨name, found⟩ := duplicate?_of_not_nodup repeated
  obtain ⟨before, after, names, nodup, there, _⟩ := duplicate?_eq_some found
  refine ⟨before, name, after, names, nodup, ?_, run_register_of_duplicate found⟩
  exact there.resolve_left List.not_mem_nil

/-- On a client whose factories are steady, registering eagerly is making all plans at once: all of
them are kept, or the registry is as before. -/
theorem registers_eagerly (d : ServiceDeclaration σ) (steady : h.client.Steady)
    (eager : h.client.eager = true) (opened : h.registry < e.registries.length)
    (reached : (e.registryOf h).Reached n) (few : n + d.methods.length < UInt64.size) :
    ∃ outs, RegistersEagerly h d e outs := by
  choose out builds using steady.builds
  have eagerly := fun distinct =>
    run_register_eagerly (d := d) (e := e) (n := n) builds eager opened distinct reached few
  refine ⟨outsOf out d.name d.methods, ?_, ?_, ?_, ?_, ?_, run_register_of_not_nodup⟩
  · rw [outsOf, List.forall₂_map_right_iff, List.forall₂_same]
    exact fun m _ => firstUse_of_builds (builds _)
  · intro distinct registry n₀ e₀ opened₀ reached₀ few₀
    exact pending_of_register_lazily rfl opened₀ distinct reached₀ few₀
  · by_cases distinct : (d.methods.map (·.name)).Nodup
    · obtain ⟨r', course⟩ := eagerly distinct
      rw [course.ok_iff]
      exact ⟨fun all => ⟨distinct, all⟩, And.right⟩
    · obtain ⟨_, _, _, _, _, _, ran⟩ := run_register_of_not_nodup (h := h) (e := e) distinct
      rw [ran]
      constructor
      · rintro ⟨_, ⟨⟩⟩
      · rintro ⟨nodup, _⟩
        exact absurd nodup distinct
  · intro service e' ran
    by_cases distinct : (d.methods.map (·.name)).Nodup
    · obtain ⟨r', course⟩ := eagerly distinct
      exact course.committed opened ran
    · obtain ⟨_, _, _, _, _, _, ran'⟩ := run_register_of_not_nodup (h := h) (e := e) distinct
      cases ran'.symm.trans ran
  · intro distinct i error failed before
    obtain ⟨r', course⟩ := eagerly distinct
    refine ⟨_, _, course.fails error (firstError_eq_some failed before),
      plugins_register_take builds eager opened distinct reached few failed,
      liveSlots_rolledBack reached few course.filled, ?_⟩
    rw [Registry.nextId_foldl_remove, course.filled.nextId]
    rfl

/-- A service whose second method is malformed. -/
def halfMalformed : ServiceDeclaration Unit where
  name := "Api"
  methods := [emptyRequestMethod "ping" (.suspend .unit), emptyRequestMethod "stop" (.direct .unit)]

/-- A client that validates eagerly, in its own engine. -/
def validating : ClientHandle Unit Unit := ⟨localClient .empty true, 0⟩

/-- The engine of one client that has registered nothing. -/
def newEngine : Engine Unit Unit := { plugins := (), registries := [.empty] }

/-- None of the methods of a service stays if one is malformed. -/
theorem registers_eagerly_malformed :
    ∃ outs, RegistersEagerly validating halfMalformed newEngine outs ∧
      ((register validating halfMalformed).run newEngine).1 =
        .error (.configuration (some "Api.stop") "Service methods cannot return unit.") ∧
      (((register validating halfMalformed).run newEngine).2.registryOf validating).liveSlots =
        [] := by
  have steady : validating.client.Steady := by
    intro side e mem
    cases side with
    | converters =>
        cases List.mem_singleton.mp mem
        exact builtInConverters_steady 0
    | adapters =>
        cases List.mem_singleton.mp mem
        exact defaultAdapter_steady 0 none
  obtain ⟨outs, registers⟩ := registers_eagerly (h := validating) (e := newEngine) halfMalformed
    steady rfl Nat.zero_lt_one .empty (by decide)
  exact ⟨outs, registers, rfl, rfl⟩

end Registering

end Engine

end RemoteCall
