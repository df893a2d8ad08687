import RemoteCall.Proofs.EagerRegistration

/-!
Plans that a client has made, and the registries that hold no others.

A plan that a build has made (`Client.Made`) says what its declaration says: plans differ in their
ids, adapters and converters only (`Client.Made.eq_planOf`), and the variant is the one that the
declaration asks for (`Client.Made.kind`). Registering services and looking methods up put no other
plans into a registry (`later_register`, `later_resolve`), so a plan that is found was made for the
method (`made_of_resolve`).
-/

namespace RemoteCall

variable {σ κ : Type}

/-- Some build of the declaration has made the plan. -/
def Client.Made (c : Client σ κ) (entry : MethodEntry σ) (plan : Plan σ κ) : Prop :=
  ∃ id s, ((settleSearch (planFor c id entry)).run s).1 = .ok plan

theorem Client.Made.eq_planOf {c : Client σ κ} {entry : MethodEntry σ} {plan : Plan σ κ}
    (made : c.Made entry plan) :
    ∃ id adapter converter, plan = planOf c id entry adapter converter := by
  obtain ⟨id, s, built⟩ := made
  have ended := run_settleSearch_eq_ok_iff.mp (Prod.ext built rfl)
  obtain ⟨adapter, t, converter, _, same⟩ := ending_planFor_eq_ok_iff.mp ended
  exact ⟨id, adapter, converter, same⟩

theorem variantOf_of_suspend {r : MethodRecord σ} (suspend : r.isSuspend = true) :
    variantOf r =
      if r.awaitsEnvelope then .suspendForEnvelope else .suspendForValue r.nullable := by
  rw [MethodRecord.isSuspend] at suspend
  rw [variantOf, MethodRecord.awaitsEnvelope]
  cases convention : r.convention with
  | direct shape =>
      rw [convention] at suspend
      cases suspend
  | suspend shape =>
      have parameterized : (shape.param? 0).isSome = shape.isParameterized := by
        rw [Shape.param?, Shape.isParameterized]
        cases shape.args with
        | nil => rfl
        | cons first rest => rfl
      simp only [parameterized]

/-- The variant of a plan is what the declaration awaits. -/
theorem Client.Made.variant_eq {c : Client σ κ} {entry : MethodEntry σ} {plan : Plan σ κ}
    (made : c.Made entry plan) (suspend : entry.record.isSuspend = true) :
    plan.variant = if entry.record.awaitsEnvelope then .suspendForEnvelope
      else .suspendForValue entry.record.nullable := by
  obtain ⟨id, adapter, converter, rfl⟩ := made.eq_planOf
  exact variantOf_of_suspend suspend

/-- The kind of future that a declaration asks for is that of every plan for it. -/
theorem Client.Made.kind {c : Client σ κ} {entry : MethodEntry σ} {plan : Plan σ κ}
    (made : c.Made entry plan) (suspend : entry.record.isSuspend = true) :
    (entry.record.awaitsEnvelope = true ↔ plan.variant = .suspendForEnvelope) ∧
      (entry.record.awaitsEnvelope = false ↔
        ∃ nullable, plan.variant = .suspendForValue nullable) := by
  rw [made.variant_eq suspend]
  cases entry.record.awaitsEnvelope with
  | true => simp
  | false => simp

namespace Engine

variable {h : ClientHandle σ κ} {id : MethodId} {e : Engine σ κ}

/-! ### Looking plans up -/

/-- A plan that is found was made for what is declared. -/
theorem made_of_resolve (sound : Registry.Sound h.client.Made (e.registryOf h)) {plan : Plan σ κ}
    {e₁ : Engine σ κ} (resolved : (resolve h id).run e = (.ok plan, e₁)) :
    ∃ entry, (e.registryOf h).entry id = .ok entry ∧ h.client.Made entry plan := by
  rcases (e.registryOf h).lookup_cases id with unknown | ⟨old, planned⟩ | ⟨entry, pending⟩
  · rw [run_resolve_of_unknown unknown] at resolved
    cases resolved
  · rw [run_resolve_of_get? planned] at resolved
    cases resolved
    exact sound.made_of_get? planned
  · obtain ⟨slot, _, ran⟩ := run_resolve_of_pending pending
    rw [ran] at resolved
    rcases built : (makePlan h id entry).run e.plugins with ⟨error | new, t⟩
    · rw [built] at resolved
      cases resolved
    · rw [built] at resolved
      cases resolved
      exact ⟨entry, pending.entry, id, e.plugins, congrArg Prod.fst built⟩

/-- Looking a method up changes its registry by a plan that was made for it. -/
theorem later_resolve {result : Except Error (Plan σ κ)} {e₁ : Engine σ κ}
    (ran : (resolve h id).run e = (result, e₁)) :
    Registry.Later h.client.Made (e.registryOf h) (e₁.registryOf h) := by
  rcases (e.registryOf h).lookup_cases id with unknown | ⟨old, planned⟩ | ⟨entry, pending⟩
  · cases (run_resolve_of_unknown unknown).symm.trans ran
    exact .refl
  · cases (run_resolve_of_get? planned).symm.trans ran
    exact .refl
  · obtain ⟨slot, found, ran'⟩ := run_resolve_of_pending pending
    rw [ran] at ran'
    rcases built : (makePlan h id entry).run e.plugins with ⟨error | plan, t⟩
    · rw [built] at ran'
      cases ran'
      exact .refl
    · rw [built] at ran'
      cases ran'
      rw [registryOf_set (opened_of_slotOf? found)]
      refine .commit (fun s there => ?_) .refl
      cases (Registry.entry_of_slot found there).symm.trans pending.entry
      exact ⟨id, e.plugins, congrArg Prod.fst built⟩

/-! ### Registering -/

theorem later_addMethods (Made : MethodEntry σ → Plan σ κ → Prop) (service : String) {n : Nat}
    {r : Registry (MethodEntry σ) (Plan σ κ)} {ms : List (MethodRecord σ)} (reached : r.Reached n)
    (few : n + ms.length < UInt64.size) : Registry.Later Made r (addMethods service r ms).2 := by
  induction ms generalizing r n with
  | nil => exact .refl
  | cons m ms ih =>
      rw [List.length_cons] at few
      have first : Registry.Later Made r (r.register ⟨qualifiedName service m.name, m⟩).2 :=
        .register _ (reached.new (by omega)) .refl
      exact first.trans (ih (reached.register _) (by omega))

theorem later_resolveAll (h : ClientHandle σ κ) (ids : List MethodId) (e : Engine σ κ) :
    Registry.Later h.client.Made (e.registryOf h) (((resolveAll h ids).run e).2.registryOf h) := by
  induction ids generalizing e with
  | nil => exact .refl
  | cons id ids ih =>
      rw [run_resolveAll_cons]
      rcases resolved : (resolve h id).run e with ⟨error | plan, e₁⟩
      · exact later_resolve resolved
      · exact (later_resolve resolved).trans (ih e₁)

theorem length_registries_resolveAll (h : ClientHandle σ κ) (ids : List MethodId)
    (e : Engine σ κ) :
    ((resolveAll h ids).run e).2.registries.length = e.registries.length := by
  induction ids generalizing e with
  | nil => rfl
  | cons id ids ih =>
      have same : ((resolve h id).run e).2.registries.length = e.registries.length := by
        rw [run_resolve]
        exact List.length_set
      rw [run_resolveAll_cons]
      rcases resolved : (resolve h id).run e with ⟨error | plan, e₁⟩
      · rwa [resolved] at same
      · rw [resolved] at same
        exact (ih e₁).trans same

theorem later_foldl_remove {ρ δ : Type} {Made : ρ → δ → Prop} (r : Registry ρ δ)
    (ids : List MethodId) : Registry.Later Made r (ids.foldl Registry.remove r) := by
  induction ids generalizing r with
  | nil => exact .refl
  | cons id ids ih => exact (Registry.Later.remove id .refl).trans (ih (r.remove id))

theorem later_endEagerly {r : Registry (MethodEntry σ) (Plan σ κ)} {service : Service}
    {ran : Option Error × Engine σ κ} (opened : h.registry < ran.2.registries.length)
    (later : Registry.Later h.client.Made r (ran.2.registryOf h)) :
    Registry.Later h.client.Made r ((endEagerly h service ran).2.registryOf h) := by
  rcases ran with ⟨_ | error, e'⟩
  · exact later
  · have removed := registryOf_set opened
      (service.ids.foldl Registry.remove (e'.registryOf h)) e'.plugins
    rw [endEagerly, removed]
    exact later.trans (later_foldl_remove _ _)

/-- Registering a service changes the registry by methods and by plans that were made for them. -/
theorem later_register {d : ServiceDeclaration σ} {n : Nat}
    (opened : h.registry < e.registries.length) (reached : (e.registryOf h).Reached n)
    (few : n + d.methods.length < UInt64.size) :
    Registry.Later h.client.Made (e.registryOf h) (((register h d).run e).2.registryOf h) := by
  have added := later_addMethods h.client.Made d.name reached few
  rw [run_register]
  cases duplicate? [] (d.methods.map (·.name)) with
  | some name => exact .refl
  | none =>
      generalize addMethods d.name (e.registryOf h) d.methods = adding at added
      obtain ⟨methods, r⟩ := adding
      let e₁ : Engine σ κ := { e with registries := e.registries.set h.registry r }
      have now : e₁.registryOf h = r := registryOf_set opened r e.plugins
      have opened₁ : h.registry < e₁.registries.length := by rwa [List.length_set]
      cases h.client.eager with
      | false =>
          rw [← now] at added
          exact added
      | true =>
          have resolved := later_resolveAll h (⟨d.name, methods⟩ : Service).ids e₁
          rw [now] at resolved
          refine later_endEagerly ?_ (added.trans resolved)
          rwa [length_registries_resolveAll]

end Engine

end RemoteCall
