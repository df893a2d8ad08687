import RemoteCall.Proofs.RaceMoves
import RemoteCall.Proofs.Slots

/-!
The invariant of a race: locks, stages and plans fit together.

`Race.Guarded` ties the holder of each lock to the stages of the resolves in progress, and each
stage to what its slot holds: from the second check on, a resolve is the only one that holds the
lock of its slot, and the slot stays without a plan until this resolve commits. Every step preserves
it (`Guarded.move`).
-/

namespace RemoteCall

variable {ρ δ : Type}

/-- The slot whose lock a resolve holds at a stage. -/
def ResolveStage.held? : ResolveStage δ → Option Nat
  | recheck slot | building slot | commit slot _ | leave slot _ => some slot
  | _ => none

/-- The slot that a resolve has found. -/
def ResolveStage.slot? : ResolveStage δ → Option Nat
  | lookup => none
  | check slot | acquire slot | recheck slot | building slot | commit slot _ | leave slot _ =>
    some slot

/-- What a registry has to hold for a resolve that is at a stage. -/
def ResolveStage.Fits (registry : Registry ρ δ) : ResolveStage δ → Prop
  | lookup => True
  | check slot | acquire slot | recheck slot => slot < registry.slots.length
  | building slot | commit slot _ =>
    slot < registry.slots.length ∧ registry.committedAt slot = none
  | leave slot result =>
    slot < registry.slots.length ∧ registry.committedAt slot = result.plan?

/-- A stage still fits when slots are added and plans stay as they are. -/
theorem ResolveStage.Fits.mono {registry larger : Registry ρ δ} {stage : ResolveStage δ}
    (fits : stage.Fits registry) (length : registry.slots.length ≤ larger.slots.length)
    (plans : ∀ slot, larger.committedAt slot = registry.committedAt slot) : stage.Fits larger := by
  cases stage with
  | lookup => trivial
  | check slot => exact Nat.lt_of_lt_of_le fits length
  | acquire slot => exact Nat.lt_of_lt_of_le fits length
  | recheck slot => exact Nat.lt_of_lt_of_le fits length
  | building slot => exact ⟨Nat.lt_of_lt_of_le fits.1 length, (plans slot).trans fits.2⟩
  | commit slot plan => exact ⟨Nat.lt_of_lt_of_le fits.1 length, (plans slot).trans fits.2⟩
  | leave slot result => exact ⟨Nat.lt_of_lt_of_le fits.1 length, (plans slot).trans fits.2⟩

/-- A commit to one slot does not disturb a resolve that does not hold the lock of this slot. -/
theorem ResolveStage.Fits.commit {registry : Registry ρ δ} {stage : ResolveStage δ}
    (fits : stage.Fits registry) {slot : Nat} (exists_slot : slot < registry.slots.length)
    (apart : stage.held? ≠ some slot) (plan : δ) : stage.Fits (registry.commit slot plan) := by
  have plans : ∀ other, other ≠ slot →
      (registry.commit slot plan).committedAt other = registry.committedAt other := by
    intro other ne
    rw [Registry.committedAt_commit _ _ _ exists_slot, if_neg ne]
  cases stage with
  | lookup => trivial
  | check other => simpa [Fits] using fits
  | acquire other => simpa [Fits] using fits
  | recheck other => simpa [Fits] using fits
  | building other =>
      have ne : other ≠ slot := fun same => apart (congrArg some same)
      simpa [Fits, plans other ne] using fits
  | commit other made =>
      have ne : other ≠ slot := fun same => apart (congrArg some same)
      simpa [Fits, plans other ne] using fits
  | leave other result =>
      have ne : other ≠ slot := fun same => apart (congrArg some same)
      simpa [Fits, plans other ne] using fits

namespace Race

/-- The slots whose locks the resolves of a caller hold. -/
def locks (r : Race ρ δ) (caller : Nat) : List Nat :=
  (r.frames caller).filterMap (·.stage.held?)

/-- Locks, stages and plans fit together. -/
structure Guarded (r : Race ρ δ) : Prop where
  /-- Only the innermost resolve of a caller is at work, the others wait for their builds. -/
  outer : ∀ caller, ∀ frame ∈ (r.frames caller).tail, ∃ slot, frame.stage = .building slot
  holder_iff : ∀ slot caller, r.holder slot = some caller ↔ slot ∈ r.locks caller
  nodup : ∀ caller, (r.locks caller).Nodup
  fits : ∀ caller, ∀ frame ∈ r.frames caller, frame.stage.Fits r.registry

@[simp] theorem frames_withFrames_same (r : Race ρ δ) (caller : Nat)
    (frames : List (ResolveFrame δ)) : (r.withFrames caller frames).frames caller = frames := by
  simp [withFrames]

@[simp] theorem frames_withFrames_other (r : Race ρ δ) {caller other : Nat}
    (frames : List (ResolveFrame δ)) (different : other ≠ caller) :
    (r.withFrames caller frames).frames other = r.frames other := by
  simp [withFrames, different]

@[simp] theorem locks_withFrames_same (r : Race ρ δ) (caller : Nat)
    (frames : List (ResolveFrame δ)) :
    (r.withFrames caller frames).locks caller = frames.filterMap (·.stage.held?) := by
  simp [locks]

@[simp] theorem locks_withFrames_other (r : Race ρ δ) {caller other : Nat}
    (frames : List (ResolveFrame δ)) (different : other ≠ caller) :
    (r.withFrames caller frames).locks other = r.locks other := by
  simp [locks, different]

/-- Nobody is at work. -/
theorem guarded_idle (registry : Registry ρ δ) : Guarded ({ registry } : Race ρ δ) where
  outer caller frame mem := by cases mem
  holder_iff slot caller := by simp [locks]
  nodup caller := by simp [locks]
  fits caller frame mem := by cases mem

namespace Guarded

variable {r r' : Race ρ δ} {caller : Nat} {id : MethodId} {stage next : ResolveStage δ}
  {rest frames : List (ResolveFrame δ)}

/-- The lock of a slot is held in one place only. -/
theorem same_caller (guarded : Guarded r) {slot other : Nat} (here : slot ∈ r.locks caller)
    (there : slot ∈ r.locks other) : caller = other := by
  have holds := (guarded.holder_iff slot caller).mpr here
  rw [(guarded.holder_iff slot other).mpr there] at holds
  exact (Option.some.inj holds).symm

theorem fits_top (guarded : Guarded r) (top : r.frames caller = ⟨id, stage⟩ :: rest) :
    stage.Fits r.registry :=
  guarded.fits caller ⟨id, stage⟩ (by simp [top])

theorem fits_rest (guarded : Guarded r) (top : r.frames caller = ⟨id, stage⟩ :: rest) :
    ∀ frame ∈ rest, frame.stage.Fits r.registry :=
  fun frame mem => guarded.fits caller frame (by simp [top, mem])

theorem outer_rest (guarded : Guarded r) (top : r.frames caller = ⟨id, stage⟩ :: rest) :
    ∀ frame ∈ rest, ∃ slot, frame.stage = .building slot := by
  simpa [top] using guarded.outer caller

/-- The innermost resolve holds the lock of its stage, and the outer ones do not. -/
theorem locks_of_top (guarded : Guarded r) (slot : Nat)
    (top : r.frames caller = ⟨id, stage⟩ :: rest) (held : stage.held? = some slot) :
    r.locks caller = slot :: rest.filterMap (·.stage.held?) ∧
      slot ∉ rest.filterMap (·.stage.held?) := by
  have locks_eq : r.locks caller = slot :: rest.filterMap (·.stage.held?) := by
    simp [locks, top, held]
  exact ⟨locks_eq, (List.nodup_cons.mp (locks_eq ▸ guarded.nodup caller)).1⟩

/-- A step that replaces the resolves of one caller, and may change who holds which lock and what
the slots hold, keeps everything in its place if the new parts fit together. -/
theorem replace (guarded : Guarded r) {registry : Registry ρ δ} {holder : Nat → Option Nat}
    (outer : ∀ frame ∈ frames.tail, ∃ slot, frame.stage = .building slot)
    (holder_same : ∀ slot, holder slot = some caller ↔ slot ∈ frames.filterMap (·.stage.held?))
    (holder_other : ∀ slot other, other ≠ caller →
      (holder slot = some other ↔ slot ∈ r.locks other))
    (nodup : (frames.filterMap (·.stage.held?)).Nodup)
    (fits_same : ∀ frame ∈ frames, frame.stage.Fits registry)
    (fits_other : ∀ other, other ≠ caller → ∀ frame ∈ r.frames other, frame.stage.Fits registry) :
    Guarded ({ r with registry, holder }.withFrames caller frames) := by
  constructor
  · intro other
    by_cases same : other = caller
    · subst same
      rw [frames_withFrames_same]
      exact outer
    · rw [frames_withFrames_other _ _ same]
      exact guarded.outer other
  · intro slot other
    by_cases same : other = caller
    · subst same
      rw [locks_withFrames_same]
      exact holder_same slot
    · rw [locks_withFrames_other _ _ same]
      exact holder_other slot other same
  · intro other
    by_cases same : other = caller
    · subst same
      rw [locks_withFrames_same]
      exact nodup
    · rw [locks_withFrames_other _ _ same]
      exact guarded.nodup other
  · intro other
    by_cases same : other = caller
    · subst same
      rw [frames_withFrames_same]
      exact fits_same
    · rw [frames_withFrames_other _ _ same]
      exact fits_other other same

/-- Only the resolves of one caller are replaced, by others that hold the same locks. -/
theorem withFrames (guarded : Guarded r)
    (outer : ∀ frame ∈ frames.tail, ∃ slot, frame.stage = .building slot)
    (same_locks : frames.filterMap (·.stage.held?) = r.locks caller)
    (fits : ∀ frame ∈ frames, frame.stage.Fits r.registry) : Guarded (r.withFrames caller frames) :=
  guarded.replace outer (fun slot => same_locks ▸ guarded.holder_iff slot caller)
    (fun slot other _ => guarded.holder_iff slot other) (same_locks ▸ guarded.nodup caller) fits
    (fun other _ => guarded.fits other)

/-- What the readers and the ended resolves have got does not matter. -/
theorem withEnded (guarded : Guarded (r.withFrames caller rest)) (ended : EndedResolve δ) :
    Guarded (r.withEnded caller rest ended) :=
  ⟨guarded.outer, guarded.holder_iff, guarded.nodup, guarded.fits⟩

/-- A caller that is building, or idle, begins a further resolve. -/
theorem start (guarded : Guarded r) (may : r.mayStart caller = true) :
    Guarded (r.withFrames caller (⟨id, .lookup⟩ :: r.frames caller)) := by
  refine guarded.withFrames (fun frame mem => ?_) ?_ fun frame mem => ?_
  · -- The resolve that was innermost so far is building, or there was none.
    simp only [mayStart, Bool.or_eq_true, List.isEmpty_iff, Option.isSome_iff_exists] at may
    rcases may with idle | ⟨⟨id', slot⟩, running⟩
    · simp [idle] at mem
    · obtain ⟨rest, top⟩ := building?_eq_some.mp running
      rw [List.tail_cons, top] at mem
      rcases List.mem_cons.mp mem with rfl | mem
      · exact ⟨slot, rfl⟩
      · exact guarded.outer_rest top frame mem
  · simp [locks, ResolveStage.held?]
  · rcases List.mem_cons.mp mem with rfl | mem
    · trivial
    · exact guarded.fits caller frame mem

/-- The innermost resolve goes to another stage and holds the same lock there. -/
theorem next_stage (guarded : Guarded r) (top : r.frames caller = ⟨id, stage⟩ :: rest)
    (same_lock : next.held? = stage.held?) (fits : next.Fits r.registry) :
    Guarded (r.withFrames caller (⟨id, next⟩ :: rest)) := by
  refine guarded.withFrames (guarded.outer_rest top) ?_ ?_
  · simp [locks, top, List.filterMap_cons, same_lock]
  · intro frame mem
    rcases List.mem_cons.mp mem with rfl | mem
    · exact fits
    · exact guarded.fits_rest top frame mem

/-- The innermost resolve ends at a stage at which it holds no lock. -/
theorem pop (guarded : Guarded r) (top : r.frames caller = ⟨id, stage⟩ :: rest)
    (no_lock : stage.held? = none) (ended : EndedResolve δ) :
    Guarded (r.withEnded caller rest ended) := by
  refine withEnded (guarded.withFrames (fun frame mem => ?_) ?_ (guarded.fits_rest top)) ended
  · exact guarded.outer_rest top frame (List.mem_of_mem_tail mem)
  · simp [locks, top, no_lock]

/-- The innermost resolve takes a lock that is free. -/
theorem acquire (guarded : Guarded r) {slot : Nat}
    (top : r.frames caller = ⟨id, .acquire slot⟩ :: rest) (free : r.holder slot = none) :
    Guarded ({ r with holder := update r.holder slot (some caller) }.withFrames caller
      (⟨id, .recheck slot⟩ :: rest)) := by
  have old_locks : r.locks caller = rest.filterMap (·.stage.held?) := by
    simp [locks, top, ResolveStage.held?]
  have not_held : ∀ other, slot ∉ r.locks other := fun other mem => by
    rw [← guarded.holder_iff, free] at mem
    cases mem
  refine guarded.replace (guarded.outer_rest top) (fun other => ?_) (fun other c ne => ?_) ?_
    (fun frame mem => ?_) (fun other _ => guarded.fits other)
  · by_cases same : other = slot
    · simp [same, ResolveStage.held?]
    · simpa [same, ResolveStage.held?, old_locks] using guarded.holder_iff other caller
  · by_cases same : other = slot
    · simpa [same, Ne.symm ne] using not_held c
    · simpa [same] using guarded.holder_iff other c
  · have nodup := guarded.nodup caller
    have fresh := not_held caller
    rw [old_locks] at nodup fresh
    exact List.nodup_cons.mpr ⟨fresh, nodup⟩
  · rcases List.mem_cons.mp mem with rfl | mem
    · exact (guarded.fits_top top :)
    · exact guarded.fits_rest top frame mem

/-- The innermost resolve gives its lock back and ends. -/
theorem leave (guarded : Guarded r) {slot : Nat} {result : BuildEnd δ}
    (top : r.frames caller = ⟨id, .leave slot result⟩ :: rest) (ended : EndedResolve δ) :
    Guarded ({ r with holder := update r.holder slot none }.withEnded caller rest ended) := by
  obtain ⟨locks_eq, fresh⟩ := guarded.locks_of_top slot top rfl
  refine withEnded (guarded.replace (fun frame mem => ?_) (fun other => ?_) (fun other c ne => ?_)
    ?_ (guarded.fits_rest top) (fun other _ => guarded.fits other)) ended
  · exact guarded.outer_rest top frame (List.mem_of_mem_tail mem)
  · by_cases same : other = slot
    · simpa [same] using fresh
    · simpa [same, locks_eq] using guarded.holder_iff other caller
  · by_cases same : other = slot
    · have here : slot ∈ r.locks caller := by simp [locks_eq]
      have elsewhere : slot ∉ r.locks c := fun mem => ne (guarded.same_caller mem here)
      simpa [same] using elsewhere
    · simpa [same] using guarded.holder_iff other c
  · exact (List.nodup_cons.mp (locks_eq ▸ guarded.nodup caller)).2

/-- The innermost resolve commits the plan that it has built. -/
theorem commit (guarded : Guarded r) {slot : Nat} {plan : δ}
    (top : r.frames caller = ⟨id, .commit slot plan⟩ :: rest) :
    Guarded ({ r with registry := r.registry.commit slot plan }.withFrames caller
      (⟨id, .leave slot
        (.built (((r.registry.commit slot plan).committedAt slot).getD plan))⟩ :: rest)) := by
  obtain ⟨locks_eq, fresh⟩ := guarded.locks_of_top slot top rfl
  obtain ⟨exists_slot, absent⟩ := guarded.fits_top top
  have committed : (r.registry.commit slot plan).committedAt slot = some plan := by
    simp [Registry.committedAt_commit, exists_slot, absent]
  have same_locks := guarded.holder_iff
  have nodup := guarded.nodup caller
  rw [locks_eq] at nodup
  refine guarded.replace (guarded.outer_rest top) (fun other => ?_)
    (fun other c _ => same_locks other c) nodup (fun frame mem => ?_) (fun c ne frame mem => ?_)
  · simpa [locks_eq, ResolveStage.held?] using same_locks other caller
  · rcases List.mem_cons.mp mem with rfl | mem
    · exact ⟨by simpa using exists_slot, by simp [committed, BuildEnd.plan?]⟩
    · refine (guarded.fits_rest top frame mem).commit exists_slot (fun held => fresh ?_) plan
      exact List.mem_filterMap.mpr ⟨frame, mem, held⟩
  · -- Another caller at work on this slot would hold the same lock.
    refine (guarded.fits c frame mem).commit exists_slot (fun held => ne ?_) plan
    exact guarded.same_caller (List.mem_filterMap.mpr ⟨frame, mem, held⟩) (by simp [locks_eq])

/-- Slots are added, or taken out of sight. -/
theorem grow (guarded : Guarded r) {registry : Registry ρ δ}
    (length : r.registry.slots.length ≤ registry.slots.length)
    (plans : ∀ slot, registry.committedAt slot = r.registry.committedAt slot) :
    Guarded { r with registry } :=
  ⟨guarded.outer, guarded.holder_iff, guarded.nodup,
    fun caller frame mem => (guarded.fits caller frame mem).mono length plans⟩

/-- Every step keeps everything in its place. -/
theorem move {label : RaceStep ρ δ} (guarded : Guarded r) (move : Move r label r') :
    Guarded r' := by
  cases move with
  | start may => exact guarded.start may
  | found top slot_of =>
      exact guarded.next_stage top rfl (Registry.lt_length_of_slotOf? slot_of)
  | unknown top _ => exact guarded.pop top rfl _
  | hit top _ => exact guarded.pop top rfl _
  | miss top _ => exact guarded.next_stage top rfl (guarded.fits_top top :)
  | acquire top free => exact guarded.acquire top free
  | reuse top there => exact guarded.next_stage top rfl ⟨guarded.fits_top top, there⟩
  | build top absent => exact guarded.next_stage top rfl ⟨guarded.fits_top top, absent⟩
  | succeed top => exact guarded.next_stage top rfl (guarded.fits_top top :)
  | fail top no_plan =>
      obtain ⟨exists_slot, absent⟩ := guarded.fits_top top
      exact guarded.next_stage top rfl ⟨exists_slot, absent.trans no_plan.symm⟩
  | commit top => exact guarded.commit top
  | leave top => exact guarded.leave top _
  | register => exact guarded.grow (by simp) (by simp)
  | remove => exact guarded.grow (by simp) (by simp)
  | look _ _ => exact ⟨guarded.outer, guarded.holder_iff, guarded.nodup, guarded.fits⟩
  | lookUnknown _ _ => exact ⟨guarded.outer, guarded.holder_iff, guarded.nodup, guarded.fits⟩
  | read _ => exact ⟨guarded.outer, guarded.holder_iff, guarded.nodup, guarded.fits⟩

end Guarded

end Race

end RemoteCall
