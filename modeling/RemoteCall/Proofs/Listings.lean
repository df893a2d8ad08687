import RemoteCall.Proofs.Registrations
import RemoteCall.Registry.Directory

/-!
What a registry lists: its methods, also those that were taken out, without their plans.

Commits do not change the listing; a removal marks one id in it (`listing_remove`), and putting a
method in under a new id adds one line (`listing_insert`). What a registry answers about an id
follows from the listing: `entry_of_listed` for a method that is there, `Dead` for one that was
taken out.
-/

namespace RemoteCall.Registry

variable {ρ δ : Type} {r r' : Registry ρ δ} {id other : MethodId} {entry : ρ}

/-- The methods that were put in, each with its id, and whether it is still there. -/
def listing (r : Registry ρ δ) : List (MethodId × ρ × Bool) :=
  r.slots.map fun s => (s.id, s.entry, s.live)

/-- The ids under which methods were put in. -/
def handed (r : Registry ρ δ) : List MethodId := r.slots.map (·.id)

/-- A method was put in under the id and taken out again. -/
structure Dead (r : Registry ρ δ) (id : MethodId) : Prop where
  handed : id ∈ r.handed
  out : ∀ entry live, (id, entry, live) ∈ r.listing → live = false

theorem mem_handed : id ∈ r.handed ↔ ∃ entry live, (id, entry, live) ∈ r.listing := by
  simp only [handed, listing, List.mem_map]
  constructor
  · rintro ⟨s, mem, rfl⟩
    exact ⟨s.entry, s.live, s, mem, rfl⟩
  · rintro ⟨entry, live, s, mem, same⟩
    cases same
    exact ⟨s, mem, rfl⟩

/-! ### Steps -/

theorem listing_commit (r : Registry ρ δ) (slot : Nat) (plan : δ) :
    (r.commit slot plan).listing = r.listing :=
  map_slots_commit (fun _ _ => rfl) r slot plan

theorem handed_of_listing (same : r'.listing = r.listing) :
    r'.handed = r.handed := by
  have ids := congrArg (List.map Prod.fst) same
  simpa [listing, handed, Function.comp_def] using ids

theorem listing_remove (r : Registry ρ δ) (id : MethodId) :
    (r.remove id).listing =
      r.listing.map fun line => if line.1 = id then (line.1, line.2.1, false) else line := by
  unfold listing remove
  rw [List.map_map, List.map_map]
  refine List.map_congr_left fun s _ => ?_
  simp only [Function.comp_apply]
  split
  · rfl
  · rfl

theorem handed_remove (r : Registry ρ δ) (id : MethodId) : (r.remove id).handed = r.handed := by
  unfold handed remove
  rw [List.map_map]
  refine List.map_congr_left fun s _ => ?_
  simp only [Function.comp_apply]
  split
  · rfl
  · rfl

theorem listing_insert (new : id ∉ r.handed) (entry : ρ) :
    (r.insert id entry).listing = r.listing ++ [(id, entry, true)] := by
  have absent : r.remove id = r := remove_of_absent fun s mem same =>
    new (List.mem_map.mpr ⟨s, mem, same⟩)
  rw [insert, absent]
  exact List.map_append

theorem handed_insert (new : id ∉ r.handed) (entry : ρ) :
    (r.insert id entry).handed = r.handed ++ [id] := by
  have lines := congrArg (List.map Prod.fst) (listing_insert new entry)
  simpa [listing, handed, Function.comp_def] using lines

/-- A line of the listing stays through a removal, up to whether the method is there. -/
theorem mem_listing_remove {live : Bool} :
    (other, entry, live) ∈ (r.remove id).listing ↔
      ∃ before, (other, entry, before) ∈ r.listing ∧
        live = if other = id then false else before := by
  rw [listing_remove, List.mem_map]
  constructor
  · rintro ⟨⟨other', entry', before⟩, mem, same⟩
    by_cases here : other' = id
    · rw [if_pos here] at same
      cases same
      exact ⟨before, mem, (if_pos here).symm⟩
    · rw [if_neg here] at same
      cases same
      exact ⟨live, mem, (if_neg here).symm⟩
  · rintro ⟨before, mem, rfl⟩
    refine ⟨_, mem, ?_⟩
    split
    · rfl
    · rfl

theorem Dead.of_listing (dead : r.Dead id) (same : r'.listing = r.listing) : r'.Dead id where
  handed := handed_of_listing same ▸ dead.handed
  out := same ▸ dead.out

theorem Dead.remove (dead : r.Dead id) (other : MethodId) : (r.remove other).Dead id where
  handed := handed_remove r other ▸ dead.handed
  out entry live mem := by
    obtain ⟨before, listed, rfl⟩ := mem_listing_remove.mp mem
    rw [dead.out entry before listed, ite_self]

theorem Dead.insert (dead : r.Dead id) (new : other ∉ r.handed) (entry : ρ) :
    (r.insert other entry).Dead id where
  handed := by
    rw [handed_insert new]
    exact List.mem_append_left _ dead.handed
  out entry' live mem := by
    rw [listing_insert new, List.mem_append, List.mem_singleton] at mem
    rcases mem with listed | new_line
    · exact dead.out entry' live listed
    · cases new_line
      exact absurd dead.handed new

/-- A method that was put in is dead once it is removed. -/
theorem dead_of_remove (handed : id ∈ r.handed) : (r.remove id).Dead id where
  handed := handed_remove r id ▸ handed
  out entry live mem := by
    obtain ⟨before, _, rfl⟩ := mem_listing_remove.mp mem
    exact if_pos rfl

/-! ### Answers -/

theorem Dead.slotOf?_eq (dead : r.Dead id) : r.slotOf? id = none := by
  refine List.findIdx?_eq_none_iff.mpr fun s mem => ?_
  by_cases same : s.id = id
  · have listed : (id, s.entry, s.live) ∈ r.listing := List.mem_map.mpr ⟨s, mem, by rw [same]⟩
    rw [dead.out s.entry s.live listed, Bool.false_and]
  · rw [beq_eq_false_iff_ne.mpr same, Bool.and_false]

theorem Dead.entry_eq (dead : r.Dead id) : r.entry id = .error (.unknownMethod id) := by
  rw [Registry.entry_eq, dead.slotOf?_eq]
  rfl

theorem Dead.get?_eq (dead : r.Dead id) : r.get? id = none := by
  rw [Registry.get?, dead.slotOf?_eq]
  rfl

/-- As long as no id was used twice, a method that is there is found by its id. -/
theorem entry_of_listed (distinct : r.handed.Nodup) (listed : (id, entry, true) ∈ r.listing) :
    r.entry id = .ok entry := by
  obtain ⟨s, mem, same⟩ := List.mem_map.mp listed
  obtain ⟨rfl, rfl, live⟩ : s.id = id ∧ s.entry = entry ∧ s.live = true := by simpa using same
  obtain ⟨before, after, slots⟩ := List.append_of_mem mem
  have first : ∀ t ∈ before, t.id ≠ s.id := by
    intro t earlier same
    rw [handed, slots, List.map_append, List.nodup_append] at distinct
    exact distinct.2.2 t.id (List.mem_map_of_mem earlier) s.id List.mem_cons_self same
  have found := slotOf?_of_split slots first live
  refine entry_of_slot found ?_
  rw [slots, List.getElem?_append_right (Nat.le_refl _), Nat.sub_self]
  rfl

/-! ### Removals of other methods -/

theorem slotOf?_remove_other (r : Registry ρ δ) (different : other ≠ id) :
    (r.remove id).slotOf? other = r.slotOf? other := by
  unfold Registry.slotOf? Registry.remove
  rw [List.findIdx?_map]
  congr 1
  funext s
  simp only [Function.comp_apply]
  by_cases same : s.id = id
  · have skipped : (s.id == other) = false := by
      rw [same]
      exact beq_eq_false_iff_ne.mpr different.symm
    rw [if_pos same, skipped, Bool.and_false, Bool.and_false]
  · rw [if_neg same]

theorem entry_remove_other (r : Registry ρ δ) (different : other ≠ id) :
    (r.remove id).entry other = r.entry other := by
  rw [entry_eq, entry_eq, slotOf?_remove_other r different]
  cases r.slotOf? other with
  | none => rfl
  | some slot =>
      obtain ⟨live, removed⟩ := getElem?_remove r id slot
      simp only [Option.bind_some, removed]
      cases r.slots[slot]? with
      | none => rfl
      | some s => rfl

theorem get?_remove_other (r : Registry ρ δ) (different : other ≠ id) :
    (r.remove id).get? other = r.get? other := by
  rw [get?, get?, slotOf?_remove_other r different]
  exact congrArg _ (funext fun slot => committedAt_remove r id slot)

end RemoteCall.Registry
