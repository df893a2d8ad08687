import RemoteCall.Registry.Basic

/-!
The slots of a registry through its operations: no operation takes a slot away, and only a commit
changes what a slot holds.
-/

namespace RemoteCall.Registry

variable {ρ δ : Type}

@[simp] theorem length_slots_remove (r : Registry ρ δ) (id : MethodId) :
    (r.remove id).slots.length = r.slots.length := by
  simp [remove]

@[simp] theorem length_slots_register (r : Registry ρ δ) (entry : ρ) :
    (r.register entry).2.slots.length = r.slots.length + 1 := by
  simp [register]

@[simp] theorem length_slots_commit (r : Registry ρ δ) (slot : Nat) (plan : δ) :
    (r.commit slot plan).slots.length = r.slots.length := by
  simp [commit]

/-- A method that is found has a slot. -/
theorem lt_length_of_slotOf? {r : Registry ρ δ} {id : MethodId} {slot : Nat}
    (found : r.slotOf? id = some slot) : slot < r.slots.length :=
  (List.findIdx?_eq_some_iff_getElem.mp found).1

/-- Removing a method leaves the plans where they are, its own included. -/
@[simp] theorem committedAt_remove (r : Registry ρ δ) (id : MethodId) (slot : Nat) :
    (r.remove id).committedAt slot = r.committedAt slot := by
  simp only [committedAt, remove, List.getElem?_map]
  cases r.slots[slot]? with
  | none => rfl
  | some s =>
      simp only [Option.map_some, Option.bind_some]
      split <;> rfl

/-- A new method has no plan yet, and the plans of the others stay. -/
@[simp] theorem committedAt_register (r : Registry ρ δ) (entry : ρ) (slot : Nat) :
    (r.register entry).2.committedAt slot = r.committedAt slot := by
  have removed := committedAt_remove r ⟨r.nextId⟩ slot
  simp only [committedAt] at removed ⊢
  rw [← removed]
  simp only [register]
  by_cases before : slot < (r.remove ⟨r.nextId⟩).slots.length
  · rw [List.getElem?_append_left before]
  · have past := Nat.le_of_not_lt before
    rw [List.getElem?_append_right past, List.getElem?_eq_none past]
    cases slot - (r.remove ⟨r.nextId⟩).slots.length <;> rfl

/-- A commit fills the slot that it is for, unless that has a plan already. -/
theorem committedAt_commit (r : Registry ρ δ) {slot : Nat} (plan : δ) (other : Nat)
    (exists_slot : slot < r.slots.length) :
    (r.commit slot plan).committedAt other =
      if other = slot then some ((r.committedAt slot).getD plan) else r.committedAt other := by
  by_cases same : other = slot
  · subst same
    simp [committedAt, commit, List.getElem?_eq_getElem exists_slot]
  · simp [committedAt, commit, same, Ne.symm same]

/-- A plan that is there is not replaced by a commit. -/
theorem committedAt_commit_of_some {r : Registry ρ δ} {slot other : Nat} {plan old : δ}
    (there : r.committedAt other = some old) :
    (r.commit slot plan).committedAt other = some old := by
  by_cases exists_slot : slot < r.slots.length
  · rw [committedAt_commit r plan other exists_slot]
    split
    · next same => subst same; simp [there]
    · exact there
  · have unchanged : r.slots.modify slot
        (fun s => { s with committed := s.committed.or (some plan) }) = r.slots :=
      List.modify_eq_self (Nat.le_of_not_lt exists_slot)
    simp only [commit, unchanged]
    exact there

end RemoteCall.Registry
