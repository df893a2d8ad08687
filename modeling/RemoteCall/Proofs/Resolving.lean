import RemoteCall.Engine.Methods
import RemoteCall.Proofs.Searching
import RemoteCall.Proofs.Slots

/-!
Looking a method up and making its plan, run from a state.

A method that is there either has a plan, or is `Registry.Pending`. A registry resolves the first
kind without building (`run_resolve_of_get?`), the second kind by one build whose plan it commits
(`run_resolve_of_pending`); an id without a method is refused (`run_resolve_of_unknown`).
`ending_planFor` and `ending_finish` follow a build through its checks and its two searches.
-/

namespace RemoteCall

namespace Registry

variable {ρ δ σ : Type} {r : Registry ρ δ} {id : MethodId}

/-- The method is there and has no plan yet. -/
structure Pending (r : Registry ρ δ) (id : MethodId) (entry : ρ) : Prop where
  entry : r.entry id = .ok entry
  unplanned : r.get? id = none

/-- The declaration of a method is that of its slot. -/
theorem entry_eq (r : Registry ρ δ) (id : MethodId) :
    r.entry id =
      match (r.slotOf? id).bind (r.slots[·]?) with
      | some s => .ok s.entry
      | none => .error (.unknownMethod id) := by
  have same : r.liveSlots.find? (·.id == id) = (r.slotOf? id).bind (r.slots[·]?) := by
    rw [slotOf?, ← List.find?_eq_bind_findIdx?_getElem?, liveSlots, List.find?_filter]
    congr 1
    funext s
    simp only [Bool.decide_and, Bool.decide_eq_true]
  rw [← same]
  rfl

theorem slot_of_entry {entry : ρ} (found : r.entry id = .ok entry) :
    ∃ slot s, r.slotOf? id = some slot ∧ r.slots[slot]? = some s ∧ s.entry = entry := by
  rw [entry_eq] at found
  cases at_slot : r.slotOf? id with
  | none =>
      rw [at_slot] at found
      cases found
  | some slot =>
      rw [at_slot, Option.bind_some] at found
      cases at_s : r.slots[slot]? with
      | none =>
          rw [at_s] at found
          cases found
      | some s =>
          rw [at_s] at found
          cases found
          exact ⟨slot, s, rfl, at_s, rfl⟩

theorem entry_of_slot {slot : Nat} {s : Slot ρ δ} (found : r.slotOf? id = some slot)
    (there : r.slots[slot]? = some s) : r.entry id = .ok s.entry := by
  rw [entry_eq, found, Option.bind_some, there]

/-- A method is not there, or it has a plan, or it is pending. -/
theorem lookup_cases (r : Registry ρ δ) (id : MethodId) :
    r.slotOf? id = none ∨ (∃ plan, r.get? id = some plan) ∨ ∃ entry, r.Pending id entry := by
  cases found : r.slotOf? id with
  | none => exact Or.inl rfl
  | some slot =>
      cases planned : r.get? id with
      | some plan => exact Or.inr (Or.inl ⟨plan, rfl⟩)
      | none =>
          have there := List.getElem?_eq_getElem (lt_length_of_slotOf? found)
          exact Or.inr (Or.inr ⟨_, entry_of_slot found there, planned⟩)

section Run

variable (build : MethodId → ρ → StateM σ (Except Error δ))

theorem run_resolve_of_unknown (unknown : r.slotOf? id = none) (s : σ) :
    (r.resolve id build).run s = ((.error (.unknownMethod id), r), s) := by
  rw [resolve, unknown]
  rfl

theorem run_resolve_of_get? {plan : δ} (planned : r.get? id = some plan) (s : σ) :
    (r.resolve id build).run s = ((.ok plan, r), s) := by
  obtain ⟨slot, found, committed⟩ := Option.bind_eq_some_iff.mp planned
  obtain ⟨there, at_slot, has⟩ := Option.bind_eq_some_iff.mp committed
  rw [resolve, found]
  simp only [at_slot, has]
  rfl

theorem run_resolve_of_pending {entry : ρ} (pending : r.Pending id entry) (s : σ) :
    ∃ slot, r.slotOf? id = some slot ∧
      (r.resolve id build).run s =
        match (build id entry).run s with
        | (.ok plan, t) => ((.ok plan, r.commit slot plan), t)
        | (.error error, t) => ((.error error, r), t) := by
  obtain ⟨slot, there, found, at_slot, rfl⟩ := slot_of_entry pending.entry
  have vacant : there.committed = none := by
    have unplanned := pending.unplanned
    rwa [get?, found, Option.bind_some, committedAt, at_slot, Option.bind_some] at unplanned
  refine ⟨slot, found, ?_⟩
  rw [resolve, found]
  simp only [at_slot, vacant, StateT.run_bind]
  rcases (build id there.entry).run s with ⟨_ | plan, t⟩
  · rfl
  · rfl

end Run

end Registry

/-! ### Building -/

section Building

variable {σ κ : Type} {c : Client σ κ} {id : MethodId} {e : MethodEntry σ}

/-- A malformed declaration is refused before anything is asked. -/
theorem ending_planFor_of_fault {reason : String}
    (fault : conventionFault? e.record.convention = some reason) (s : σ) :
    ending (planFor c id e) s = (some (.error (.configuration (some e.qualified) reason)), s) := by
  rw [planFor]
  simp only [fault]
  rfl

/-- The first search of a build is for the adapter. -/
theorem ending_planFor (wellFormed : conventionFault? e.record.convention = none) (s : σ) :
    ending (planFor c id e) s =
      match ending (c.offer (.callAdapter (adapterShape e.record.convention)
        (adapterTags e.record))) s with
      | (some (.ok adapter), t) => ending (planFor.finish c id e e.record adapter) t
      | (some (.error error), t) => (some (.error (error.forMethod e.qualified)), t)
      | (none, t) => (none, t) := by
  rw [planFor]
  simp only [wellFormed]
  rw [ending_bind]
  rcases ending (c.offer (.callAdapter (adapterShape e.record.convention)
    (adapterTags e.record))) s with ⟨_ | _ | adapter, t⟩
  · rfl
  · rfl
  · rfl

theorem ending_finish_of_fault {adapter : CallAdapter σ κ} {reason : String}
    (fault : payloadFault? e.record.verb adapter.responseType = some reason) (s : σ) :
    ending (planFor.finish c id e e.record adapter) s =
      (some (.error (.shape e.qualified reason)), s) := by
  rw [planFor.finish]
  simp only [fault]
  rfl

/-- The plan that a build makes of what it has found. -/
def planOf (c : Client σ κ) (id : MethodId) (e : MethodEntry σ) (adapter : CallAdapter σ κ)
    (converter : ResponseConverter σ) : Plan σ κ where
  id
  method := e.qualified
  verb := e.record.verb
  variant := variantOf e.record
  responseType := adapter.responseType
  responseConverter := converter
  callAdapter := adapter
  request := e.record.request
  calls := c.calls
  baseUrl := c.baseUrl

/-- The second search of a build is for the converter of the payload. -/
theorem ending_finish {adapter : CallAdapter σ κ}
    (usable : payloadFault? e.record.verb adapter.responseType = none) (s : σ) :
    ending (planFor.finish c id e e.record adapter) s =
      match ending (c.offer (.responseConverter adapter.responseType e.record.metadata)) s with
      | (some (.ok converter), t) => (some (.ok (planOf c id e adapter converter)), t)
      | (some (.error error), t) => (some (.error (error.forMethod e.qualified)), t)
      | (none, t) => (none, t) := by
  rw [planFor.finish]
  simp only [usable]
  rw [ending_bind]
  rcases ending (c.offer (.responseConverter adapter.responseType e.record.metadata)) s with
    ⟨_ | _ | converter, t⟩
  · rfl
  · rfl
  · rfl

/-- From the plug-in state `s`, the build of the method finds the adapter and then, from the state
`t`, the converter. It leaves the state `u`. -/
structure Client.Finds (c : Client σ κ) (e : MethodEntry σ) (s : σ) (adapter : CallAdapter σ κ)
    (t : σ) (converter : ResponseConverter σ) (u : σ) : Prop where
  wellFormed : conventionFault? e.record.convention = none
  adapted : ending (c.offer (.callAdapter (adapterShape e.record.convention)
    (adapterTags e.record))) s = (some (.ok adapter), t)
  usable : payloadFault? e.record.verb adapter.responseType = none
  converted : ending (c.offer (.responseConverter adapter.responseType e.record.metadata)) t =
    (some (.ok converter), u)

/-- A build makes a plan of what it finds, and only so. -/
theorem ending_planFor_eq_ok_iff {s u : σ} {plan : Plan σ κ} :
    ending (planFor c id e) s = (some (.ok plan), u) ↔ ∃ adapter t converter,
      c.Finds e s adapter t converter u ∧ plan = planOf c id e adapter converter := by
  constructor
  · intro built
    cases malformed : conventionFault? e.record.convention with
    | some reason =>
        rw [ending_planFor_of_fault malformed] at built
        cases built
    | none =>
        rw [ending_planFor malformed] at built
        rcases adapted : ending (c.offer (.callAdapter (adapterShape e.record.convention)
          (adapterTags e.record))) s with ⟨_ | _ | adapter, t⟩
        · rw [adapted] at built
          cases built
        · rw [adapted] at built
          cases built
        · simp only [adapted] at built
          cases unusable : payloadFault? e.record.verb adapter.responseType with
          | some reason =>
              rw [ending_finish_of_fault unusable] at built
              cases built
          | none =>
              rw [ending_finish unusable] at built
              rcases converted : ending (c.offer (.responseConverter adapter.responseType
                e.record.metadata)) t with ⟨_ | _ | converter, v⟩
              · rw [converted] at built
                cases built
              · rw [converted] at built
                cases built
              · rw [converted] at built
                cases built
                exact ⟨adapter, t, converter, ⟨malformed, adapted, unusable, converted⟩, rfl⟩
  · rintro ⟨adapter, t, converter, finds, rfl⟩
    rw [ending_planFor finds.wellFormed, finds.adapted]
    simp only
    rw [ending_finish finds.usable, finds.converted]

/-- The declaration of a method that makes the empty request. -/
def emptyRequestMethod (name : String) (convention : Convention) : MethodRecord σ where
  name
  verb := .get
  convention
  metadata := .empty
  nullable := false
  request := fun url _ => pure (.ok ⟨.get, url, [], none⟩)

end Building

/-! ### Resolving in an engine -/

namespace Engine

variable {σ κ : Type} {h : ClientHandle σ κ} {id : MethodId} {e : Engine σ κ}

theorem set_registryOf (e : Engine σ κ) (h : ClientHandle σ κ) :
    e.registries.set h.registry (e.registryOf h) = e.registries := by
  rcases Nat.lt_or_ge h.registry e.registries.length with lt | ge
  · rw [registryOf, List.getElem?_eq_getElem lt, Option.getD_some, List.set_getElem_self]
  · exact List.set_eq_of_length_le ge

theorem registryOf_set {e : Engine σ κ} (opened : h.registry < e.registries.length)
    (r : Registry (MethodEntry σ) (Plan σ κ)) (t : σ) :
    ({ e with
        plugins := t
        registries := e.registries.set h.registry r } : Engine σ κ).registryOf h = r := by
  rw [registryOf, List.getElem?_set_self opened]
  rfl

/-- A method can only be there if the client has been opened. -/
theorem opened_of_slotOf? {slot : Nat} (found : (e.registryOf h).slotOf? id = some slot) :
    h.registry < e.registries.length := by
  rcases Nat.lt_or_ge h.registry e.registries.length with lt | ge
  · exact lt
  · rw [registryOf, List.getElem?_eq_none ge] at found
    cases found

theorem run_resolve (h : ClientHandle σ κ) (id : MethodId) (e : Engine σ κ) :
    (resolve h id).run e =
      let resolved := ((e.registryOf h).resolve id (makePlan h)).run e.plugins
      (resolved.1.1, { e with
        plugins := resolved.2
        registries := e.registries.set h.registry resolved.1.2 }) := rfl

theorem run_resolve_of_unknown (unknown : (e.registryOf h).slotOf? id = none) :
    (resolve h id).run e = (.error (.unknownMethod id), e) := by
  rw [run_resolve, Registry.run_resolve_of_unknown _ unknown]
  simp only [set_registryOf]

theorem run_resolve_of_get? {plan : Plan σ κ} (planned : (e.registryOf h).get? id = some plan) :
    (resolve h id).run e = (.ok plan, e) := by
  rw [run_resolve, Registry.run_resolve_of_get? _ planned]
  simp only [set_registryOf]

/-- A method without a plan is built; a plan is committed, an error is not kept. -/
theorem run_resolve_of_pending {entry : MethodEntry σ}
    (pending : (e.registryOf h).Pending id entry) :
    ∃ slot, (e.registryOf h).slotOf? id = some slot ∧
      (resolve h id).run e =
        match (makePlan h id entry).run e.plugins with
        | (.ok plan, t) => (.ok plan, { e with
            plugins := t
            registries := e.registries.set h.registry ((e.registryOf h).commit slot plan) })
        | (.error error, t) => (.error error, { e with plugins := t }) := by
  obtain ⟨slot, found, ran⟩ :=
    Registry.run_resolve_of_pending (makePlan h) pending e.plugins
  refine ⟨slot, found, ?_⟩
  rw [run_resolve, ran]
  rcases (makePlan h id entry).run e.plugins with ⟨_ | plan, t⟩
  · simp only [set_registryOf]
  · rfl

end Engine

end RemoteCall
