import RemoteCall.Proofs.Resolving

/-!
Registries over their life: the ids that were given out, and what a commit or a removal leaves.

`Registry.Reached n` are the registries that any use with `n` registrations can lead to. As long as
the ids last, a new one is larger than all earlier ones (`Reached.id_le`), so a registration only
adds a slot (`register_eq`). `Filled` says that a registry was changed by commits from some slot on
only; `liveSlots_removed` is what taking the slots behind that one out again leaves.
-/

namespace RemoteCall.Registry

variable {ρ δ : Type}

/-- The registries that any use with `n` registrations leads to. -/
inductive Reached : Nat → Registry ρ δ → Prop where
  | empty : Reached 0 .empty
  | register {n : Nat} {r : Registry ρ δ} (entry : ρ) (earlier : Reached n r) :
      Reached (n + 1) (r.register entry).2
  | remove {n : Nat} {r : Registry ρ δ} (id : MethodId) (earlier : Reached n r) :
      Reached n (r.remove id)
  | commit {n : Nat} {r : Registry ρ δ} (slot : Nat) (plan : δ) (earlier : Reached n r) :
      Reached n (r.commit slot plan)

/-- A commit changes nothing of the slots but their plans. -/
theorem map_slots_commit {β : Type} {f : Slot ρ δ → β}
    (same : ∀ s c, f { s with committed := c } = f s) (r : Registry ρ δ) (slot : Nat) (plan : δ) :
    (r.commit slot plan).slots.map f = r.slots.map f := by
  refine List.ext_getElem? fun i => ?_
  simp only [commit, List.getElem?_map, List.getElem?_modify]
  cases r.slots[i]? with
  | none => rfl
  | some s =>
      by_cases here : slot = i
      · simp [here, same]
      · simp [here]

/-- The id that the registration with the given number gives out. -/
def nthId (n : Nat) : MethodId := ⟨UInt64.ofNat n⟩

theorem toNat_nthId {n : Nat} (few : n < UInt64.size) : (nthId n).number.toNat = n :=
  Nat.mod_eq_of_lt few

theorem Reached.nextId {n : Nat} {r : Registry ρ δ} (reached : r.Reached n) :
    (⟨r.nextId⟩ : MethodId) = nthId (n + 1) := by
  induction reached with
  | empty => rfl
  | @register n r entry _ ih =>
      have same : r.nextId = UInt64.ofNat (n + 1) := congrArg MethodId.number ih
      have next : (r.register entry).2.nextId = r.nextId + 1 := rfl
      rw [next, same, nthId, UInt64.ofNat_add (n + 1) 1]
      rfl
  | remove id _ ih => exact ih
  | commit slot plan _ ih => exact ih

/-- The ids given out so far are the first ones. -/
theorem Reached.id_le {n : Nat} {r : Registry ρ δ} (reached : r.Reached n) (few : n < UInt64.size) :
    ∀ s ∈ r.slots, s.id.number.toNat ≤ n := by
  induction reached with
  | empty => exact nofun
  | @register n r entry earlier ih =>
      intro s mem
      have removed : ∀ s ∈ (r.remove ⟨r.nextId⟩).slots, s.id.number.toNat ≤ n := by
        intro s mem
        obtain ⟨t, there, rfl⟩ := List.mem_map.mp mem
        have le := ih (Nat.lt_of_succ_lt few) t there
        split
        · exact le
        · exact le
      rcases List.mem_append.mp mem with before | new
      · exact Nat.le_succ_of_le (removed s before)
      · cases List.mem_singleton.mp new
        have toNat : (⟨r.nextId⟩ : MethodId).number.toNat = n + 1 := by
          rw [earlier.nextId, toNat_nthId few]
        exact Nat.le_of_eq toNat
  | @remove n r id _ ih =>
      intro s mem
      obtain ⟨t, there, rfl⟩ := List.mem_map.mp mem
      have le := ih few t there
      split
      · exact le
      · exact le
  | @commit n r slot plan _ ih =>
      intro s mem
      have there := List.mem_map_of_mem (f := Slot.id) mem
      rw [map_slots_commit fun _ _ => rfl] at there
      obtain ⟨t, there, same⟩ := List.mem_map.mp there
      rw [← same]
      exact ih few t there

/-- Removing a method that is not there changes nothing. -/
theorem remove_of_absent {r : Registry ρ δ} {id : MethodId} (absent : ∀ s ∈ r.slots, s.id ≠ id) :
    r.remove id = r := by
  have same :
      r.slots.map (fun s => if s.id = id then { s with live := false } else s) = r.slots := by
    refine (List.map_congr_left fun s mem => ?_).trans (List.map_id _)
    rw [if_neg (absent s mem)]
    rfl
  rw [remove, same]

/-- As long as the ids last, the next one is new. -/
theorem Reached.new {n : Nat} {r : Registry ρ δ} (reached : r.Reached n)
    (few : n + 1 < UInt64.size) : ∀ s ∈ r.slots, s.id ≠ ⟨r.nextId⟩ := by
  intro s mem same
  have le := reached.id_le (Nat.lt_of_succ_lt few) s mem
  rw [same, reached.nextId, toNat_nthId few] at le
  omega

/-- A registration adds a slot under the next id. -/
theorem register_eq {n : Nat} {r : Registry ρ δ} (reached : r.Reached n)
    (few : n + 1 < UInt64.size) (entry : ρ) :
    r.register entry = (nthId (n + 1),
      { nextId := r.nextId + 1, slots := r.slots ++ [⟨nthId (n + 1), entry, none, true⟩] }) := by
  have absent := reached.new few
  rw [reached.nextId] at absent
  simp only [register, reached.nextId, remove_of_absent absent]

/-! ### Finding -/

/-- The first live slot with an id is that of the method. -/
theorem slotOf?_of_split {r : Registry ρ δ} {before after : List (Slot ρ δ)} {s : Slot ρ δ}
    (slots : r.slots = before ++ s :: after) (first : ∀ t ∈ before, t.id ≠ s.id)
    (live : s.live = true) : r.slotOf? s.id = some before.length := by
  have none : before.findIdx? (fun t => t.live && t.id == s.id) = none := by
    refine List.findIdx?_eq_none_iff.mpr fun t mem => ?_
    rw [beq_eq_false_iff_ne.mpr (first t mem), Bool.and_false]
  rw [slotOf?, slots, List.findIdx?_append, none, List.findIdx?_cons]
  simp [live]

/-- A live slot without a plan, the first with its id, is that of a pending method. -/
theorem pending_of_split {r : Registry ρ δ} {before after : List (Slot ρ δ)} {s : Slot ρ δ}
    (slots : r.slots = before ++ s :: after) (first : ∀ t ∈ before, t.id ≠ s.id)
    (live : s.live = true) (vacant : s.committed = none) : r.Pending s.id s.entry := by
  have found := slotOf?_of_split slots first live
  have there : r.slots[before.length]? = some s := by
    rw [slots, List.getElem?_append_right (Nat.le_refl _), Nat.sub_self]
    rfl
  refine ⟨entry_of_slot found there, ?_⟩
  rw [get?, found, Option.bind_some, committedAt, there, Option.bind_some, vacant]

/-- The slot of a method has its id. -/
theorem id_of_slot {r : Registry ρ δ} {id : MethodId} {slot : Nat} {s : Slot ρ δ}
    (found : r.slotOf? id = some slot) (there : r.slots[slot]? = some s) : s.id = id := by
  obtain ⟨lt, here, _⟩ := List.findIdx?_eq_some_iff_getElem.mp found
  rw [List.getElem?_eq_getElem lt] at there
  cases there
  simp only [Bool.and_eq_true, beq_iff_eq] at here
  exact here.2

/-- Two methods have different slots. -/
theorem id_of_slotOf? {r : Registry ρ δ} {id id' : MethodId} {slot : Nat}
    (found : r.slotOf? id = some slot) (found' : r.slotOf? id' = some slot) : id = id' := by
  obtain ⟨lt, here, _⟩ := List.findIdx?_eq_some_iff_getElem.mp found
  obtain ⟨_, here', _⟩ := List.findIdx?_eq_some_iff_getElem.mp found'
  simp only [Bool.and_eq_true, beq_iff_eq] at here here'
  rw [← here.2, ← here'.2]

/-! ### Commits -/

/-- A commit moves no method. -/
@[simp] theorem slotOf?_commit (r : Registry ρ δ) (slot : Nat) (plan : δ) (id : MethodId) :
    (r.commit slot plan).slotOf? id = r.slotOf? id := by
  have kept := map_slots_commit (f := fun s => (s.live, s.id)) (fun _ _ => rfl) r slot plan
  have same := congrArg (List.findIdx? fun s => s.1 && s.2 == id) kept
  rwa [List.findIdx?_map, List.findIdx?_map] at same

@[simp] theorem entry_commit (r : Registry ρ δ) (slot : Nat) (plan : δ) (id : MethodId) :
    (r.commit slot plan).entry id = r.entry id := by
  rw [entry_eq, entry_eq, slotOf?_commit]
  cases r.slotOf? id with
  | none => rfl
  | some i =>
      have kept := map_slots_commit (f := Slot.entry) (fun _ _ => rfl) r slot plan
      have same := congrArg (·[i]?) kept
      simp only [List.getElem?_map] at same
      simp only [Option.bind_some]
      cases before : r.slots[i]? with
      | none =>
          rw [before, Option.map_none, Option.map_eq_none_iff] at same
          rw [same]
      | some s =>
          rw [before, Option.map_some] at same
          obtain ⟨t, after, entry⟩ := Option.map_eq_some_iff.mp same
          simp only [after, entry]

/-- The method in the slot has the plan afterwards. -/
theorem get?_commit_self {r : Registry ρ δ} {id : MethodId} {slot : Nat}
    (found : r.slotOf? id = some slot) (unplanned : r.get? id = none) (plan : δ) :
    (r.commit slot plan).get? id = some plan := by
  have vacant : r.committedAt slot = none := by rwa [get?, found, Option.bind_some] at unplanned
  rw [get?, slotOf?_commit, found, Option.bind_some,
    committedAt_commit r plan slot (lt_length_of_slotOf? found), if_pos rfl, vacant]
  rfl

/-- The plans of other methods stay as they are. -/
theorem get?_commit_other {r : Registry ρ δ} {id other : MethodId} {slot : Nat}
    (found : r.slotOf? id = some slot) (plan : δ) (different : other ≠ id) :
    (r.commit slot plan).get? other = r.get? other := by
  rw [get?, get?, slotOf?_commit]
  cases at_slot : r.slotOf? other with
  | none => rfl
  | some i =>
      have apart : i ≠ slot := by
        rintro rfl
        exact different (id_of_slotOf? at_slot found)
      rw [Option.bind_some, Option.bind_some,
        committedAt_commit r plan i (lt_length_of_slotOf? found), if_neg apart]

/-- Other methods stay pending. -/
theorem Pending.commit_other {r : Registry ρ δ} {id other : MethodId} {slot : Nat} {entry : ρ}
    (pending : r.Pending other entry) (found : r.slotOf? id = some slot) (plan : δ)
    (different : other ≠ id) : (r.commit slot plan).Pending other entry where
  entry := by rw [entry_commit, pending.entry]
  unplanned := by rw [get?_commit_other found plan different, pending.unplanned]

/-- A plan is not replaced. -/
theorem get?_commit_of_some {r : Registry ρ δ} {id : MethodId} {slot : Nat} {plan old : δ}
    (planned : r.get? id = some old) : (r.commit slot plan).get? id = some old := by
  obtain ⟨i, found, committed⟩ := Option.bind_eq_some_iff.mp planned
  rw [get?, slotOf?_commit, found, Option.bind_some, committedAt_commit_of_some committed]

/-- Plans were committed, all of them to the slot `k` or later ones. -/
inductive Filled (k : Nat) (r : Registry ρ δ) : Registry ρ δ → Prop where
  | refl : Filled k r r
  | commit {r' : Registry ρ δ} {slot : Nat} (plan : δ) (behind : k ≤ slot)
      (filled : Filled k r r') : Filled k r (r'.commit slot plan)

namespace Filled

variable {k : Nat} {r r' r'' : Registry ρ δ}

theorem trans (first : Filled k r r') (rest : Filled k r' r'') : Filled k r r'' := by
  induction rest with
  | refl => exact first
  | commit plan behind _ ih => exact .commit plan behind ih

theorem nextId (filled : Filled k r r') : r'.nextId = r.nextId := by
  induction filled with
  | refl => rfl
  | commit plan behind _ ih => exact ih

theorem slotOf? (filled : Filled k r r') (id : MethodId) : r'.slotOf? id = r.slotOf? id := by
  induction filled with
  | refl => rfl
  | commit plan behind _ ih => rw [slotOf?_commit, ih]

theorem entry (filled : Filled k r r') (id : MethodId) : r'.entry id = r.entry id := by
  induction filled with
  | refl => rfl
  | commit plan behind _ ih => rw [entry_commit, ih]

/-- The slots before `k` are as they were. -/
theorem take (filled : Filled k r r') : r'.slots.take k = r.slots.take k := by
  induction filled with
  | refl => rfl
  | @commit r' slot plan behind _ ih =>
      have short : (r'.slots.take k).length ≤ slot :=
        Nat.le_trans (List.length_take_le k r'.slots) behind
      rw [Registry.commit, List.take_modify, List.modify_eq_self short, ih]

theorem ids (filled : Filled k r r') : r'.slots.map Slot.id = r.slots.map Slot.id := by
  induction filled with
  | refl => rfl
  | commit plan behind _ ih => rw [map_slots_commit fun _ _ => rfl, ih]

/-- Plans that were there before stay. -/
theorem get?_of_some (filled : Filled k r r') {id : MethodId} {plan : δ}
    (planned : r.get? id = some plan) : r'.get? id = some plan := by
  induction filled with
  | refl => exact planned
  | commit plan behind _ ih => exact get?_commit_of_some ih

end Filled

/-! ### Removing several methods -/

theorem nextId_foldl_remove (r : Registry ρ δ) (ids : List MethodId) :
    (ids.foldl remove r).nextId = r.nextId := by
  induction ids generalizing r with
  | nil => rfl
  | cons id ids ih => rw [List.foldl_cons, ih, remove]

/-- The live slots after a removal are those of the other methods. -/
theorem liveSlots_remove (r : Registry ρ δ) (id : MethodId) :
    (r.remove id).liveSlots = r.liveSlots.filter (·.id ≠ id) := by
  unfold liveSlots remove
  induction r.slots with
  | nil => rfl
  | cons s slots ih =>
      rw [List.map_cons, List.filter_cons, List.filter_cons, ih]
      by_cases same : s.id = id
      · cases s.live with
        | true => simp [same]
        | false => simp [same]
      · cases live : s.live with
        | true => simp [same, live]
        | false => simp [same, live]

theorem liveSlots_foldl_remove (r : Registry ρ δ) (ids : List MethodId) :
    (ids.foldl remove r).liveSlots = r.liveSlots.filter (·.id ∉ ids) := by
  induction ids generalizing r with
  | nil => exact (List.filter_eq_self.mpr fun _ _ => by simp).symm
  | cons id ids ih =>
      rw [List.foldl_cons, ih, liveSlots_remove, List.filter_filter]
      refine List.filter_congr fun s _ => ?_
      simp [Bool.and_comm]

/-! ### The same registry later -/

/-- What becomes of a registry as long as ids are not given out twice: methods are registered and
removed, and slots get plans that were `Made` for what they declare. -/
inductive Later (Made : ρ → δ → Prop) (r : Registry ρ δ) : Registry ρ δ → Prop where
  | refl : Later Made r r
  | register {r' : Registry ρ δ} (entry : ρ) (new : ∀ s ∈ r'.slots, s.id ≠ ⟨r'.nextId⟩)
      (later : Later Made r r') : Later Made r (r'.register entry).2
  | remove {r' : Registry ρ δ} (id : MethodId) (later : Later Made r r') :
      Later Made r (r'.remove id)
  | commit {r' : Registry ρ δ} {slot : Nat} {plan : δ}
      (made : ∀ s, r'.slots[slot]? = some s → Made s.entry plan) (later : Later Made r r') :
      Later Made r (r'.commit slot plan)

/-- No two slots have one id, and every plan was made for what its slot declares. -/
structure Sound (Made : ρ → δ → Prop) (r : Registry ρ δ) : Prop where
  distinct : (r.slots.map Slot.id).Nodup
  made : ∀ s ∈ r.slots, ∀ plan, s.committed = some plan → Made s.entry plan

section Later

variable {Made : ρ → δ → Prop} {r r' : Registry ρ δ}

/-- A removal changes nothing of a slot but whether it is live. -/
theorem getElem?_remove (r : Registry ρ δ) (id : MethodId) (i : Nat) :
    ∃ live : Slot ρ δ → Bool,
      (r.remove id).slots[i]? = r.slots[i]?.map fun s => { s with live := live s } := by
  refine ⟨fun s => if s.id = id then false else s.live, ?_⟩
  simp only [Registry.remove, List.getElem?_map]
  cases r.slots[i]? with
  | none => rfl
  | some s =>
      by_cases same : s.id = id
      · simp [same]
      · simp [same]

/-- A commit changes nothing of a slot but its plan, and only if it had none. -/
theorem getElem?_commit (r : Registry ρ δ) (slot : Nat) (plan : δ) (i : Nat) :
    (r.commit slot plan).slots[i]? = r.slots[i]?.map fun s =>
      if slot = i then { s with committed := s.committed.or (some plan) } else s := by
  simp only [Registry.commit, List.getElem?_modify]
  rfl

theorem Sound.empty : Sound Made (.empty : Registry ρ δ) where
  distinct := List.nodup_nil
  made := nofun

theorem Sound.later (sound : Sound Made r) (later : Later Made r r') : Sound Made r' := by
  induction later with
  | refl => exact sound
  | @register r' entry new _ ih =>
      have slots :
          (r'.register entry).2.slots = r'.slots ++ [⟨⟨r'.nextId⟩, entry, none, true⟩] := by
        simp only [Registry.register, remove_of_absent new]
      constructor
      · rw [slots, List.map_append, List.nodup_append]
        refine ⟨ih.distinct, List.nodup_cons.mpr ⟨List.not_mem_nil, List.nodup_nil⟩, ?_⟩
        intro id old id' fresh same
        obtain ⟨s, mem, rfl⟩ := List.mem_map.mp old
        cases List.mem_singleton.mp fresh
        exact new s mem same
      · intro s mem plan planned
        rw [slots] at mem
        rcases List.mem_append.mp mem with old | fresh
        · exact ih.made s old plan planned
        · cases List.mem_singleton.mp fresh
          cases planned
  | @remove r' id _ ih =>
      constructor
      · have ids : (r'.remove id).slots.map Slot.id = r'.slots.map Slot.id := by
          rw [Registry.remove, List.map_map]
          refine List.map_congr_left fun s _ => ?_
          simp only [Function.comp_apply]
          split
          · rfl
          · rfl
        rw [ids]
        exact ih.distinct
      · intro s mem plan planned
        obtain ⟨i, there⟩ := List.getElem?_of_mem mem
        obtain ⟨live, removed⟩ := getElem?_remove r' id i
        rw [removed] at there
        obtain ⟨t, before, rfl⟩ := Option.map_eq_some_iff.mp there
        exact ih.made t (List.mem_of_getElem? before) plan planned
  | @commit r' slot plan made _ ih =>
      constructor
      · rw [map_slots_commit fun _ _ => rfl]
        exact ih.distinct
      · intro s mem plan' planned
        obtain ⟨i, there⟩ := List.getElem?_of_mem mem
        rw [getElem?_commit] at there
        obtain ⟨t, before, rfl⟩ := Option.map_eq_some_iff.mp there
        have kept := ih.made t (List.mem_of_getElem? before)
        by_cases here : slot = i
        · simp only [here, if_true] at planned ⊢
          cases old : t.committed with
          | some p =>
              rw [old] at planned
              exact kept plan' (old.trans planned)
          | none =>
              rw [old] at planned
              cases planned
              exact made t (here ▸ before)
        · simp only [here, if_false] at planned ⊢
          exact kept plan' planned

theorem Later.trans {r'' : Registry ρ δ} (first : Later Made r r') (rest : Later Made r' r'') :
    Later Made r r'' := by
  induction rest with
  | refl => exact first
  | register entry new _ ih => exact .register entry new ih
  | remove id _ ih => exact .remove id ih
  | commit made _ ih => exact .commit made ih

/-- A slot stays where it is, with its id and its declaration. -/
theorem Later.slot (later : Later Made r r') {i : Nat} {s : Slot ρ δ}
    (there : r.slots[i]? = some s) :
    ∃ s', r'.slots[i]? = some s' ∧ s'.id = s.id ∧ s'.entry = s.entry := by
  induction later with
  | refl => exact ⟨s, there, rfl, rfl⟩
  | @register r' entry new _ ih =>
      obtain ⟨s', now, id, entry'⟩ := ih
      refine ⟨s', ?_, id, entry'⟩
      simp only [Registry.register, remove_of_absent new]
      rw [List.getElem?_append_left (List.getElem?_eq_some_iff.mp now).1, now]
  | @remove r' id _ ih =>
      obtain ⟨s', now, same, entry'⟩ := ih
      obtain ⟨live, removed⟩ := getElem?_remove r' id i
      rw [now] at removed
      exact ⟨_, removed, same, entry'⟩
  | @commit r' slot plan _ _ ih =>
      obtain ⟨s', now, id, entry'⟩ := ih
      have committed := getElem?_commit r' slot plan i
      rw [now] at committed
      refine ⟨_, committed, ?_⟩
      split
      · exact ⟨id, entry'⟩
      · exact ⟨id, entry'⟩

/-- As long as a method is there, its declaration is the same. -/
theorem Later.entry_eq (later : Later Made r r') (sound : Sound Made r) {id : MethodId}
    {entry entry' : ρ} (before : r.entry id = .ok entry) (after : r'.entry id = .ok entry') :
    entry' = entry := by
  obtain ⟨i, s, found, there, rfl⟩ := slot_of_entry before
  obtain ⟨j, t, found', there', rfl⟩ := slot_of_entry after
  obtain ⟨s', now, same, kept⟩ := later.slot there
  have id_s : s.id = id := id_of_slot found there
  have id_t : t.id = id := id_of_slot found' there'
  have distinct := (sound.later later).distinct
  have position : i = j := by
    have lt : i < (r'.slots.map Slot.id).length := by
      rw [List.length_map]
      exact (List.getElem?_eq_some_iff.mp now).1
    refine (List.getElem?_inj lt distinct).mp ?_
    rw [List.getElem?_map, List.getElem?_map, now, there', Option.map_some, Option.map_some, same,
      id_s, id_t]
  subst position
  rw [now] at there'
  cases there'
  exact kept

/-- A plan was made for the declaration of its method. -/
theorem Sound.made_of_get? (sound : Sound Made r) {id : MethodId} {plan : δ}
    (planned : r.get? id = some plan) : ∃ entry, r.entry id = .ok entry ∧ Made entry plan := by
  obtain ⟨slot, found, committed⟩ := Option.bind_eq_some_iff.mp planned
  obtain ⟨s, there, has⟩ := Option.bind_eq_some_iff.mp committed
  exact ⟨s.entry, entry_of_slot found there, sound.made s (List.mem_of_getElem? there) plan has⟩

end Later

end RemoteCall.Registry
