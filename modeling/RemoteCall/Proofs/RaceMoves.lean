import RemoteCall.Registry.Race

/-!
What one atomic step of a race can do.

`Race.Move` has one rule for each atomic step, with the condition under which it can be taken and
with everything that it changes; `move_of_step?` says that there are no other steps. Later proofs
split a step by these rules and never open `Race.step?`.
-/

namespace RemoteCall

variable {ρ δ : Type}

/-- The plan that a build has made, if it made one. -/
def BuildEnd.plan? : BuildEnd δ → Option δ
  | built plan => some plan
  | failed _ => none
  | panicked => none

namespace Race

@[simp] theorem update_same {α : Type} (f : Nat → α) (place : Nat) (value : α) :
    update f place value place = value := by
  simp [update]

@[simp] theorem update_other {α : Type} (f : Nat → α) {place other : Nat} (value : α)
    (different : other ≠ place) : update f place value other = f other := by
  simp [update, different]

/-- The race in which a caller has the given resolves in progress. -/
def withFrames (r : Race ρ δ) (caller : Nat) (frames : List (ResolveFrame δ)) : Race ρ δ :=
  { r with frames := update r.frames caller frames }

/-- The race in which a caller's innermost resolve has ended. -/
def withEnded (r : Race ρ δ) (caller : Nat) (rest : List (ResolveFrame δ))
    (ended : EndedResolve δ) : Race ρ δ :=
  { r.withFrames caller rest with ended := ended :: r.ended }

/-- The rules for an atomic step. -/
inductive Move (r : Race ρ δ) : RaceStep ρ δ → Race ρ δ → Prop where
  | start {caller : Nat} {id : MethodId} (may : r.mayStart caller = true) :
      Move r (.start caller id) (r.withFrames caller (⟨id, .lookup⟩ :: r.frames caller))
  | found {caller : Nat} {id : MethodId} {rest : List (ResolveFrame δ)} {slot : Nat}
      (top : r.frames caller = ⟨id, .lookup⟩ :: rest)
      (slot_of : r.registry.slotOf? id = some slot) :
      Move r (.advance caller) (r.withFrames caller (⟨id, .check slot⟩ :: rest))
  | unknown {caller : Nat} {id : MethodId} {rest : List (ResolveFrame δ)}
      (top : r.frames caller = ⟨id, .lookup⟩ :: rest) (slot_of : r.registry.slotOf? id = none) :
      Move r (.advance caller)
        (r.withEnded caller rest ⟨caller, id, none, .failed (.unknownMethod id)⟩)
  | hit {caller : Nat} {id : MethodId} {rest : List (ResolveFrame δ)} {slot : Nat} {plan : δ}
      (top : r.frames caller = ⟨id, .check slot⟩ :: rest)
      (there : r.registry.committedAt slot = some plan) :
      Move r (.advance caller) (r.withEnded caller rest ⟨caller, id, some slot, .built plan⟩)
  | miss {caller : Nat} {id : MethodId} {rest : List (ResolveFrame δ)} {slot : Nat}
      (top : r.frames caller = ⟨id, .check slot⟩ :: rest)
      (absent : r.registry.committedAt slot = none) :
      Move r (.advance caller) (r.withFrames caller (⟨id, .acquire slot⟩ :: rest))
  | acquire {caller : Nat} {id : MethodId} {rest : List (ResolveFrame δ)} {slot : Nat}
      (top : r.frames caller = ⟨id, .acquire slot⟩ :: rest) (free : r.holder slot = none) :
      Move r (.advance caller)
        ({ r with holder := update r.holder slot (some caller) }.withFrames caller
          (⟨id, .recheck slot⟩ :: rest))
  | reuse {caller : Nat} {id : MethodId} {rest : List (ResolveFrame δ)} {slot : Nat} {plan : δ}
      (top : r.frames caller = ⟨id, .recheck slot⟩ :: rest)
      (there : r.registry.committedAt slot = some plan) :
      Move r (.advance caller) (r.withFrames caller (⟨id, .leave slot (.built plan)⟩ :: rest))
  | build {caller : Nat} {id : MethodId} {rest : List (ResolveFrame δ)} {slot : Nat}
      (top : r.frames caller = ⟨id, .recheck slot⟩ :: rest)
      (absent : r.registry.committedAt slot = none) :
      Move r (.advance caller) (r.withFrames caller (⟨id, .building slot⟩ :: rest))
  | succeed {caller : Nat} {id : MethodId} {rest : List (ResolveFrame δ)} {slot : Nat} {plan : δ}
      (top : r.frames caller = ⟨id, .building slot⟩ :: rest) :
      Move r (.finish caller (.built plan)) (r.withFrames caller (⟨id, .commit slot plan⟩ :: rest))
  | fail {caller : Nat} {id : MethodId} {rest : List (ResolveFrame δ)} {slot : Nat}
      {result : BuildEnd δ} (top : r.frames caller = ⟨id, .building slot⟩ :: rest)
      (no_plan : result.plan? = none) :
      Move r (.finish caller result) (r.withFrames caller (⟨id, .leave slot result⟩ :: rest))
  | commit {caller : Nat} {id : MethodId} {rest : List (ResolveFrame δ)} {slot : Nat} {plan : δ}
      (top : r.frames caller = ⟨id, .commit slot plan⟩ :: rest) :
      Move r (.advance caller)
        ({ r with registry := r.registry.commit slot plan }.withFrames caller
          (⟨id, .leave slot
            (.built (((r.registry.commit slot plan).committedAt slot).getD plan))⟩ :: rest))
  | leave {caller : Nat} {id : MethodId} {rest : List (ResolveFrame δ)} {slot : Nat}
      {result : BuildEnd δ} (top : r.frames caller = ⟨id, .leave slot result⟩ :: rest) :
      Move r (.advance caller)
        ({ r with holder := update r.holder slot none }.withEnded caller rest
          ⟨caller, id, some slot, result⟩)
  | register {entry : ρ} :
      Move r (.register entry) { r with registry := (r.registry.register entry).2 }
  | remove {id : MethodId} : Move r (.remove id) { r with registry := r.registry.remove id }
  | look {reader : Nat} {id : MethodId} {slot : Nat} (idle : r.looking reader = none)
      (slot_of : r.registry.slotOf? id = some slot) :
      Move r (.look reader id) { r with looking := update r.looking reader (some (id, slot)) }
  | lookUnknown {reader : Nat} {id : MethodId} (idle : r.looking reader = none)
      (slot_of : r.registry.slotOf? id = none) :
      Move r (.look reader id) { r with looked := ⟨id, none, none⟩ :: r.looked }
  | read {reader : Nat} {id : MethodId} {slot : Nat} (busy : r.looking reader = some (id, slot)) :
      Move r (.read reader) { r with
        looking := update r.looking reader none
        looked := ⟨id, some slot, r.registry.committedAt slot⟩ :: r.looked }

section Steps

variable {r r' : Race ρ δ} {caller : Nat} {id : MethodId} {stage : ResolveStage δ}
  {rest : List (ResolveFrame δ)}

theorem goto_of_top (top : r.frames caller = ⟨id, stage⟩ :: rest) (next : ResolveStage δ) :
    r.goto caller next = r.withFrames caller (⟨id, next⟩ :: rest) := by
  simp [goto, withFrames, top]

theorem finishFrame_of_top (top : r.frames caller = ⟨id, stage⟩ :: rest) (slot : Option Nat)
    (result : BuildEnd δ) :
    r.finishFrame caller slot result = r.withEnded caller rest ⟨caller, id, slot, result⟩ := by
  simp [finishFrame, withEnded, withFrames, top]

theorem move_of_advance? (taken : r.advance? caller = some r') : Move r (.advance caller) r' := by
  unfold advance? at taken
  split at taken
  · cases taken
  · rename_i frame rest top
    obtain ⟨id, stage⟩ := frame
    cases stage with
    | lookup =>
        simp only at taken
        split at taken
        · rename_i slot slot_of
          rw [goto_of_top top] at taken
          cases taken
          exact .found top slot_of
        · rename_i slot_of
          rw [finishFrame_of_top top] at taken
          cases taken
          exact .unknown top slot_of
    | check slot =>
        simp only at taken
        split at taken
        · rename_i plan there
          rw [finishFrame_of_top top] at taken
          cases taken
          exact .hit top there
        · rename_i absent
          rw [goto_of_top top] at taken
          cases taken
          exact .miss top absent
    | acquire slot =>
        simp only at taken
        split at taken
        · cases taken
        · rename_i free
          have moved := goto_of_top
            (r := { r with holder := update r.holder slot (some caller) }) top (.recheck slot)
          rw [moved] at taken
          cases taken
          exact .acquire top free
    | recheck slot =>
        simp only at taken
        split at taken
        · rename_i plan there
          rw [goto_of_top top] at taken
          cases taken
          exact .reuse top there
        · rename_i absent
          rw [goto_of_top top] at taken
          cases taken
          exact .build top absent
    | building slot => cases taken
    | commit slot plan =>
        have moved := goto_of_top (r := { r with registry := r.registry.commit slot plan }) top
          (.leave slot (.built (((r.registry.commit slot plan).committedAt slot).getD plan)))
        simp only [moved, Option.some.injEq] at taken
        cases taken
        exact .commit top
    | leave slot result =>
        have moved := finishFrame_of_top (r := { r with holder := update r.holder slot none }) top
          (some slot) result
        simp only [moved, Option.some.injEq] at taken
        cases taken
        exact .leave top

/-- A build runs only in the innermost resolve. -/
theorem building?_eq_some {slot : Nat} :
    r.building? caller = some (id, slot) ↔
      ∃ rest, r.frames caller = ⟨id, .building slot⟩ :: rest := by
  unfold building?
  constructor
  · intro running
    split at running
    · rename_i top
      cases running
      exact ⟨_, top⟩
    · cases running
  · rintro ⟨rest, top⟩
    simp [top]

/-- Every step follows one of the rules. -/
theorem move_of_step? {label : RaceStep ρ δ} (taken : r.step? label = some r') :
    Move r label r' := by
  cases label with
  | start caller id =>
      simp only [step?] at taken
      split at taken
      · rename_i may
        cases taken
        exact .start may
      · cases taken
  | advance caller => exact move_of_advance? taken
  | finish caller result =>
      obtain ⟨⟨id, slot⟩, running, eq⟩ := Option.map_eq_some_iff.mp taken
      obtain ⟨rest, top⟩ := building?_eq_some.mp running
      cases result with
      | built plan =>
          simp only [goto_of_top top] at eq
          cases eq
          exact .succeed top
      | failed error =>
          simp only [goto_of_top top] at eq
          cases eq
          exact .fail top rfl
      | panicked =>
          simp only [goto_of_top top] at eq
          cases eq
          exact .fail top rfl
  | register entry =>
      cases taken
      exact .register
  | remove id =>
      cases taken
      exact .remove
  | look reader id =>
      simp only [step?] at taken
      split at taken
      · cases taken
      · rename_i idle
        split at taken
        · rename_i slot slot_of
          cases taken
          exact .look idle slot_of
        · rename_i slot_of
          cases taken
          exact .lookUnknown idle slot_of
  | read reader =>
      obtain ⟨⟨id, slot⟩, busy, eq⟩ := Option.map_eq_some_iff.mp taken
      cases eq
      exact .read busy

end Steps

end Race

end RemoteCall
