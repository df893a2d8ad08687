import RemoteCall.Proofs.Guarded
import RemoteCall.Proofs.Run

/-!
Plans are committed once, whatever the callers do.

The callers of a race begin with nobody at work on some registry and take their steps in any order.
`commits_once` says what holds after every such run: a slot keeps its plan, every resolve that
succeeds returns the plan of the slot that it has looked up, builds of one slot neither overlap nor
succeed twice, and the failure of a build goes to nobody but the caller that ran it. It is put
together from statements that are each an induction over the run (`of_run`), with the invariant
`Race.Guarded` at hand at every step.
-/

namespace RemoteCall

variable {ρ δ : Type}

theorem BuildEnd.exists_of_plan? {result : BuildEnd δ} (made : result.plan?.isSome) :
    ∃ plan, result = .built plan := by
  cases result with
  | built plan => exact ⟨plan, rfl⟩
  | failed error => cases made
  | panicked => cases made

/-- What a resolve is about to return at a stage. -/
def ResolveStage.returned (caller : Nat) (id : MethodId) :
    ResolveStage δ → List (EndedResolve δ)
  | leave slot result => [⟨caller, id, some slot, result⟩]
  | _ => []

/-- A resolve of the caller that has found its slot and has failed there. -/
def EndedResolve.failedOf (caller : Nat) (e : EndedResolve δ) : Bool :=
  e.caller == caller && e.slot.isSome && e.result.plan?.isNone

@[simp] theorem EndedResolve.failedOf_built (caller c : Nat) (id : MethodId) (slot : Option Nat)
    (plan : δ) : failedOf caller ⟨c, id, slot, .built plan⟩ = false := by
  simp [failedOf, BuildEnd.plan?]

@[simp] theorem EndedResolve.failedOf_unknown (caller c : Nat) (id : MethodId)
    (result : BuildEnd δ) : failedOf caller ⟨c, id, none, result⟩ = false := by
  simp [failedOf]

/-- A resolve that has got a plan from the slot. -/
def EndedResolve.succeededOn (slot : Nat) (e : EndedResolve δ) : Bool :=
  e.slot == some slot && e.result.plan?.isSome

namespace Race

/-- The steps of a run with the states before them, the latest first. -/
abbrev History (ρ δ : Type) := List (Race ρ δ × RaceStep ρ δ)

/-- The build that ends by a step, as the resolve that runs it would end with the same result. -/
def buildEnd? (r : Race ρ δ) : RaceStep ρ δ → Option (EndedResolve δ)
  | .finish caller result =>
    (r.building? caller).map fun (id, slot) => ⟨caller, id, some slot, result⟩
  | _ => none

theorem buildEnd?_advance (r : Race ρ δ) (caller : Nat) : r.buildEnd? (.advance caller) = none :=
  rfl

theorem buildEnd?_finish {r : Race ρ δ} {caller slot : Nat} {id : MethodId}
    {rest : List (ResolveFrame δ)} (top : r.frames caller = ⟨id, .building slot⟩ :: rest)
    (result : BuildEnd δ) :
    r.buildEnd? (.finish caller result) = some ⟨caller, id, some slot, result⟩ := by
  simp [buildEnd?, building?_eq_some.mpr ⟨rest, top⟩]

/-- The builds that have ended in a run, the latest first. -/
def builds (history : History ρ δ) : List (EndedResolve δ) :=
  history.filterMap fun (r, label) => r.buildEnd? label

/-- What the innermost resolve of a caller is about to return. -/
def leaving (r : Race ρ δ) (caller : Nat) : List (EndedResolve δ) :=
  match r.frames caller with
  | [] => []
  | frame :: _ => frame.stage.returned caller frame.id

/-- In the run a resolve of the caller has looked the method up, with this result. -/
def LookedUp (history : History ρ δ) (caller : Nat) (id : MethodId) (slot : Option Nat) : Prop :=
  ∃ r rest, (r, .advance caller) ∈ history ∧ r.frames caller = ⟨id, .lookup⟩ :: rest ∧
    r.registry.slotOf? id = slot

/-- A build of the slot has succeeded, and its plan is committed or about to be. -/
def Settled (r : Race ρ δ) (slot : Nat) : Prop :=
  r.registry.committedAt slot ≠ none ∨
    ∃ caller id plan rest, r.frames caller = ⟨id, .commit slot plan⟩ :: rest

/-! ### Steps -/

section Steps

variable {r r' : Race ρ δ} {label : RaceStep ρ δ}

/-- A step does not touch a plan that is there. -/
theorem Move.committedAt_mono (move : Move r label r') {slot : Nat} {plan : δ}
    (there : r.registry.committedAt slot = some plan) :
    r'.registry.committedAt slot = some plan := by
  cases move with
  | commit _ => exact Registry.committedAt_commit_of_some there
  | register => simpa using there
  | remove => simpa using there
  | _ => exact there

/-- A plan that a step brings into the registry is the one that a caller was about to commit. -/
theorem Move.committedAt_new (move : Move r label r') (guarded : Guarded r) {slot : Nat} {plan : δ}
    (there : r'.registry.committedAt slot = some plan) :
    r.registry.committedAt slot = some plan ∨
      ∃ caller id rest, r.frames caller = ⟨id, .commit slot plan⟩ :: rest := by
  cases move with
  | @commit caller id rest filled made top =>
      obtain ⟨exists_slot, absent⟩ := guarded.fits_top top
      change (r.registry.commit filled made).committedAt slot = some plan at there
      rw [Registry.committedAt_commit _ _ _ exists_slot, absent] at there
      split at there
      · next same =>
        subst same
        cases there
        exact Or.inr ⟨caller, id, rest, top⟩
      · exact Or.inl there
  | register => exact Or.inl (by simpa using there)
  | remove => exact Or.inl (by simpa using there)
  | _ => exact Or.inl there

/-- A resolve that ends has found no slot, or returns what its slot holds. -/
theorem Move.ended_new (move : Move r label r') (guarded : Guarded r) {e : EndedResolve δ}
    (mem : e ∈ r'.ended) :
    e ∈ r.ended ∨ (e.slot = none ∧ e.result = .failed (.unknownMethod e.id)) ∨
      ∃ slot, e.slot = some slot ∧ r.registry.committedAt slot = e.result.plan? := by
  cases move with
  | unknown top _ =>
      rcases List.mem_cons.mp mem with rfl | mem
      · exact Or.inr (Or.inl ⟨rfl, rfl⟩)
      · exact Or.inl mem
  | @hit caller id rest slot plan top there =>
      rcases List.mem_cons.mp mem with rfl | mem
      · exact Or.inr (Or.inr ⟨slot, rfl, there⟩)
      · exact Or.inl mem
  | @leave caller id rest slot result top =>
      rcases List.mem_cons.mp mem with rfl | mem
      · exact Or.inr (Or.inr ⟨slot, rfl, (guarded.fits_top top).2⟩)
      · exact Or.inl mem
  | _ => exact Or.inl mem

theorem mem_frames_withFrames {caller other : Nat} {frames : List (ResolveFrame δ)}
    {frame : ResolveFrame δ} (mem : frame ∈ (r.withFrames caller frames).frames other) :
    (other = caller ∧ frame ∈ frames) ∨ frame ∈ r.frames other := by
  by_cases same : other = caller
  · subst same
    exact Or.inl ⟨rfl, by simpa using mem⟩
  · exact Or.inr (by simpa [same] using mem)

/-- A resolve keeps the slot that it has looked up through all its stages. -/
theorem Move.slot_of_frame (move : Move r label r') {caller slot : Nat} {frame : ResolveFrame δ}
    (mem : frame ∈ r'.frames caller) (at_slot : frame.stage.slot? = some slot) :
    (∃ old ∈ r.frames caller, old.id = frame.id ∧ old.stage.slot? = some slot) ∨
      (label = .advance caller ∧ ∃ rest, r.frames caller = ⟨frame.id, .lookup⟩ :: rest ∧
        r.registry.slotOf? frame.id = some slot) := by
  have unchanged : frame ∈ r.frames caller →
      ∃ old ∈ r.frames caller, old.id = frame.id ∧ old.stage.slot? = some slot :=
    fun mem => ⟨frame, mem, rfl, at_slot⟩
  have kept : ∀ {c id stage rest} (next : ResolveStage δ), r.frames c = ⟨id, stage⟩ :: rest →
      next.slot? = stage.slot? → frame ∈ (r.withFrames c (⟨id, next⟩ :: rest)).frames caller →
      ∃ old ∈ r.frames caller, old.id = frame.id ∧ old.stage.slot? = some slot := by
    intro c id stage rest next top same_slot mem
    rcases mem_frames_withFrames mem with ⟨rfl, inside⟩ | outside
    · rcases List.mem_cons.mp inside with rfl | inside
      · exact ⟨⟨id, stage⟩, by simp [top], rfl, same_slot ▸ at_slot⟩
      · exact unchanged (by simp [top, inside])
    · exact unchanged outside
  have popped : ∀ {c top_frame rest}, r.frames c = top_frame :: rest →
      frame ∈ (r.withFrames c rest).frames caller →
      ∃ old ∈ r.frames caller, old.id = frame.id ∧ old.stage.slot? = some slot := by
    intro c top_frame rest top mem
    rcases mem_frames_withFrames mem with ⟨rfl, inside⟩ | outside
    · exact unchanged (by simp [top, inside])
    · exact unchanged outside
  cases move with
  | start may =>
      rcases mem_frames_withFrames mem with ⟨rfl, inside⟩ | outside
      · rcases List.mem_cons.mp inside with rfl | inside
        · cases at_slot
        · exact Or.inl (unchanged inside)
      · exact Or.inl (unchanged outside)
  | @found c id rest found_slot top slot_of =>
      rcases mem_frames_withFrames mem with ⟨rfl, inside⟩ | outside
      · rcases List.mem_cons.mp inside with rfl | inside
        · cases at_slot
          exact Or.inr ⟨rfl, rest, top, slot_of⟩
        · exact Or.inl (unchanged (by simp [top, inside]))
      · exact Or.inl (unchanged outside)
  | unknown top _ => exact Or.inl (popped top mem)
  | hit top _ => exact Or.inl (popped top mem)
  | miss top _ => exact Or.inl (kept (.acquire _) top rfl mem)
  | acquire top _ => exact Or.inl (kept (.recheck _) top rfl mem)
  | reuse top _ => exact Or.inl (kept (.leave _ _) top rfl mem)
  | build top _ => exact Or.inl (kept (.building _) top rfl mem)
  | succeed top => exact Or.inl (kept (.commit _ _) top rfl mem)
  | fail top _ => exact Or.inl (kept (.leave _ _) top rfl mem)
  | commit top => exact Or.inl (kept (.leave _ _) top rfl mem)
  | leave top => exact Or.inl (popped top mem)
  | register => exact Or.inl (unchanged mem)
  | remove => exact Or.inl (unchanged mem)
  | look _ _ => exact Or.inl (unchanged mem)
  | lookUnknown _ _ => exact Or.inl (unchanged mem)
  | read _ => exact Or.inl (unchanged mem)

theorem leaving_of_top {caller : Nat} {id : MethodId} {stage : ResolveStage δ}
    {rest : List (ResolveFrame δ)} (top : r.frames caller = ⟨id, stage⟩ :: rest) :
    r.leaving caller = stage.returned caller id := by
  simp [leaving, top]

theorem leaving_of_other {caller other : Nat} {frames : List (ResolveFrame δ)}
    (changed : r'.frames = update r.frames caller frames) (different : other ≠ caller) :
    r'.leaving other = r.leaving other := by
  simp [leaving, changed, different]

/-- A caller that may begin a resolve has none about to return. -/
theorem leaving_of_mayStart {caller : Nat} (may : r.mayStart caller = true) :
    r.leaving caller = [] := by
  simp only [mayStart, Bool.or_eq_true, List.isEmpty_iff, Option.isSome_iff_exists] at may
  rcases may with idle | ⟨⟨id, slot⟩, running⟩
  · simp [leaving, idle]
  · obtain ⟨rest, top⟩ := building?_eq_some.mp running
    exact leaving_of_top top

/-- Behind the innermost resolve there is none about to return. -/
theorem Guarded.leaving_rest (guarded : Guarded r) {caller : Nat} {id : MethodId}
    {stage : ResolveStage δ} {rest : List (ResolveFrame δ)}
    (top : r.frames caller = ⟨id, stage⟩ :: rest) (left : r'.frames caller = rest) :
    r'.leaving caller = [] := by
  cases rest with
  | nil => simp [leaving, left]
  | cons outer rest =>
      obtain ⟨slot, building⟩ := guarded.outer_rest top outer (by simp)
      simp [leaving, left, building, ResolveStage.returned]

theorem failedOf_other {caller : Nat} {e : EndedResolve δ} (different : caller ≠ e.caller) :
    e.failedOf caller = false := by
  simp [EndedResolve.failedOf, Ne.symm different]

section Handing

variable {c caller : Nat} {id : MethodId} {stage next : ResolveStage δ}
  {rest : List (ResolveFrame δ)} {done : Option (EndedResolve δ)} {e : EndedResolve δ}

/-- A resolve that goes to another stage takes over the failure of the build that has ended. -/
theorem failures_of_next (top : r.frames c = ⟨id, stage⟩ :: rest)
    (changed : r'.frames = update r.frames c (⟨id, next⟩ :: rest)) (ended : r'.ended = r.ended)
    (own : ∀ e ∈ done, e.caller = c)
    (handed : (next.returned c id).filter (·.failedOf c) =
      (done.toList ++ stage.returned c id).filter (·.failedOf c)) :
    (r'.leaving caller ++ r'.ended).filter (·.failedOf caller) =
      (done.toList ++ (r.leaving caller ++ r.ended)).filter (·.failedOf caller) := by
  by_cases same : caller = c
  · subst same
    rw [leaving_of_top top, leaving_of_top (r := r') (by rw [changed, update_same]), ended,
      ← List.append_assoc, List.filter_append, List.filter_append, handed]
  · have not_done : done.toList.filter (·.failedOf caller) = [] := by
      rw [List.filter_eq_nil_iff]
      intro e mem
      rw [failedOf_other (own e (Option.mem_toList.mp mem) ▸ same)]
      exact Bool.false_ne_true
    rw [leaving_of_other changed same, ended, List.filter_append (done.toList), not_done,
      List.nil_append]

/-- A resolve that ends returns the failure that it was about to return. -/
theorem failures_of_pop (guarded : Guarded r) (top : r.frames c = ⟨id, stage⟩ :: rest)
    (changed : r'.frames = update r.frames c rest) (ended : r'.ended = e :: r.ended)
    (own : e.caller = c)
    (handed : [e].filter (·.failedOf c) = (stage.returned c id).filter (·.failedOf c)) :
    (r'.leaving caller ++ r'.ended).filter (·.failedOf caller) =
      (r.leaving caller ++ r.ended).filter (·.failedOf caller) := by
  by_cases same : caller = c
  · subst same
    have popped : r'.frames caller = rest := by rw [changed, update_same]
    have nothing := guarded.leaving_rest top popped
    rw [leaving_of_top top, nothing, ended, List.nil_append, List.filter_append, ← handed,
      ← List.filter_append, List.singleton_append]
  · rw [leaving_of_other changed same, ended, List.filter_append, List.filter_append,
      List.filter_cons, failedOf_other (own ▸ same)]
    rfl

end Handing

/-- A step hands each failure on: a build that fails leaves its failure with the resolve that has
run it, and a resolve that has a failure returns it. -/
theorem Move.failures (move : Move r label r') (guarded : Guarded r) (caller : Nat) :
    (r'.leaving caller ++ r'.ended).filter (·.failedOf caller) =
      ((r.buildEnd? label).toList ++ (r.leaving caller ++ r.ended)).filter (·.failedOf caller) := by
  cases move with
  | @start c id may =>
      have started : (r.withFrames c (⟨id, .lookup⟩ :: r.frames c)).leaving caller =
          r.leaving caller := by
        by_cases same : caller = c
        · subst same
          rw [leaving_of_mayStart may, leaving_of_top (frames_withFrames_same ..)]
          rfl
        · exact leaving_of_other rfl same
      rw [started]
      rfl
  | found top _ => exact failures_of_next top rfl rfl nofun rfl
  | unknown top _ =>
      exact failures_of_pop guarded top rfl rfl rfl (by simp [ResolveStage.returned])
  | hit top _ => exact failures_of_pop guarded top rfl rfl rfl (by simp [ResolveStage.returned])
  | miss top _ => exact failures_of_next top rfl rfl nofun rfl
  | acquire top _ => exact failures_of_next top rfl rfl nofun rfl
  | reuse top _ =>
      rw [buildEnd?_advance]
      exact failures_of_next top rfl rfl nofun (by simp [ResolveStage.returned])
  | build top _ => exact failures_of_next top rfl rfl nofun rfl
  | succeed top =>
      rw [buildEnd?_finish top]
      exact failures_of_next top rfl rfl (by simp) (by simp [ResolveStage.returned])
  | fail top _ =>
      rw [buildEnd?_finish top]
      exact failures_of_next top rfl rfl (by simp) (by simp [ResolveStage.returned])
  | commit top =>
      rw [buildEnd?_advance]
      exact failures_of_next top rfl rfl nofun (by simp [ResolveStage.returned])
  | leave top => exact failures_of_pop guarded top rfl rfl rfl rfl
  | register => rfl
  | remove => rfl
  | look _ _ => rfl
  | lookUnknown _ _ => rfl
  | read _ => rfl

/-- The builds that a step ends: none, or the one of a caller's innermost resolve. -/
theorem Move.build_of_end (move : Move r label r') {b : EndedResolve δ}
    (ends : r.buildEnd? label = some b) :
    ∃ slot rest, b.slot = some slot ∧ r.frames b.caller = ⟨b.id, .building slot⟩ :: rest ∧
      ∀ plan, b.result = .built plan → r'.frames b.caller = ⟨b.id, .commit slot plan⟩ :: rest := by
  cases move with
  | @succeed caller id rest slot plan top =>
      rw [buildEnd?_finish top] at ends
      cases ends
      exact ⟨slot, rest, rfl, top, fun _ same => by cases same; simp⟩
  | @fail caller id rest slot result top no_plan =>
      rw [buildEnd?_finish top] at ends
      cases ends
      exact ⟨slot, rest, rfl, top, fun _ same => by cases same; cases no_plan⟩
  | _ => cases ends

/-- While a build runs its slot is not settled. -/
theorem Guarded.not_settled (guarded : Guarded r) {caller slot : Nat} {id : MethodId}
    {rest : List (ResolveFrame δ)} (top : r.frames caller = ⟨id, .building slot⟩ :: rest) :
    ¬ r.Settled slot := by
  rintro (there | ⟨other, id', plan, rest', top'⟩)
  · exact there (guarded.fits_top top).2
  · have here := (guarded.locks_of_top slot top rfl).1
    have elsewhere := (guarded.locks_of_top slot top' rfl).1
    have holds : slot ∈ r.locks caller := here ▸ List.mem_cons_self
    have holds' : slot ∈ r.locks other := elsewhere ▸ List.mem_cons_self
    obtain rfl := guarded.same_caller holds holds'
    rw [top] at top'
    cases top'

/-- A resolve that is about to commit does so with its next step, and until then stays where it
is. -/
theorem Move.of_commit (move : Move r label r') {caller slot : Nat} {id : MethodId} {plan : δ}
    {rest : List (ResolveFrame δ)} (top : r.frames caller = ⟨id, .commit slot plan⟩ :: rest) :
    r'.registry = r.registry.commit slot plan ∨ r'.frames caller = r.frames caller := by
  have elsewhere : ∀ {c frames}, r'.frames = update r.frames c frames → caller ≠ c →
      r'.frames caller = r.frames caller := fun changed ne => by rw [changed, update_other _ _ ne]
  have apart : ∀ {c id' stage rest'}, r.frames c = ⟨id', stage⟩ :: rest' →
      (∀ other made, stage ≠ .commit other made) → caller ≠ c := by
    rintro c id' stage rest' top' not_commit rfl
    rw [top] at top'
    cases top'
    exact not_commit _ _ rfl
  cases move with
  | start may =>
      refine Or.inr (elsewhere rfl ?_)
      rintro rfl
      simp [mayStart, building?, top] at may
  | found top' _ => exact Or.inr (elsewhere rfl (apart top' (by rintro _ _ ⟨⟩)))
  | unknown top' _ => exact Or.inr (elsewhere rfl (apart top' (by rintro _ _ ⟨⟩)))
  | hit top' _ => exact Or.inr (elsewhere rfl (apart top' (by rintro _ _ ⟨⟩)))
  | miss top' _ => exact Or.inr (elsewhere rfl (apart top' (by rintro _ _ ⟨⟩)))
  | acquire top' _ => exact Or.inr (elsewhere rfl (apart top' (by rintro _ _ ⟨⟩)))
  | reuse top' _ => exact Or.inr (elsewhere rfl (apart top' (by rintro _ _ ⟨⟩)))
  | build top' _ => exact Or.inr (elsewhere rfl (apart top' (by rintro _ _ ⟨⟩)))
  | succeed top' => exact Or.inr (elsewhere rfl (apart top' (by rintro _ _ ⟨⟩)))
  | fail top' _ => exact Or.inr (elsewhere rfl (apart top' (by rintro _ _ ⟨⟩)))
  | @commit c _ _ _ _ top' =>
      by_cases same : caller = c
      · subst same
        rw [top] at top'
        cases top'
        exact Or.inl rfl
      · exact Or.inr (elsewhere rfl same)
  | leave top' => exact Or.inr (elsewhere rfl (apart top' (by rintro _ _ ⟨⟩)))
  | register => exact Or.inr rfl
  | remove => exact Or.inr rfl
  | look _ _ => exact Or.inr rfl
  | lookUnknown _ _ => exact Or.inr rfl
  | read _ => exact Or.inr rfl

/-- A settled slot stays so. -/
theorem Move.settled (move : Move r label r') (guarded : Guarded r) {slot : Nat}
    (settled : r.Settled slot) : r'.Settled slot := by
  rcases settled with there | ⟨caller, id, plan, rest, top⟩
  · obtain ⟨plan, there⟩ := Option.ne_none_iff_exists'.mp there
    exact Or.inl (by simp [move.committedAt_mono there])
  · rcases move.of_commit top with committed | stays
    · obtain ⟨exists_slot, absent⟩ := guarded.fits_top top
      exact Or.inl (by simp [committed, Registry.committedAt_commit, exists_slot])
    · exact Or.inr ⟨caller, id, plan, rest, stays.trans top⟩

/-- A caller that has come to the commit stage was there before, or its build has just ended. -/
theorem Move.commit_new (move : Move r label r') (guarded : Guarded r) {caller slot : Nat}
    {id : MethodId} {plan : δ} {rest : List (ResolveFrame δ)}
    (top : r'.frames caller = ⟨id, .commit slot plan⟩ :: rest) :
    r.frames caller = ⟨id, .commit slot plan⟩ :: rest ∨
      r.buildEnd? label = some ⟨caller, id, some slot, .built plan⟩ := by
  have elsewhere : ∀ {c frames}, r'.frames = update r.frames c frames → caller ≠ c →
      r.frames caller = ⟨id, .commit slot plan⟩ :: rest := fun changed ne => by
    rwa [changed, update_other _ _ ne] at top
  have next_stage : ∀ {c id' rest'} (next : ResolveStage δ),
      r'.frames = update r.frames c (⟨id', next⟩ :: rest') →
      (∀ other made, next ≠ .commit other made) →
      r.frames caller = ⟨id, .commit slot plan⟩ :: rest := by
    intro c id' rest' next changed not_commit
    refine elsewhere changed ?_
    rintro rfl
    rw [changed, update_same] at top
    cases top
    exact not_commit _ _ rfl
  have popped : ∀ {c id' stage rest'}, r.frames c = ⟨id', stage⟩ :: rest' →
      r'.frames = update r.frames c rest' →
      r.frames caller = ⟨id, .commit slot plan⟩ :: rest := by
    intro c id' stage rest' top' changed
    refine elsewhere changed ?_
    rintro rfl
    rw [changed, update_same] at top
    obtain ⟨_, building⟩ := guarded.outer_rest top' ⟨id, .commit slot plan⟩ (by simp [top])
    cases building
  cases move with
  | start _ => exact Or.inl (next_stage _ rfl nofun)
  | found _ _ => exact Or.inl (next_stage _ rfl nofun)
  | unknown top' _ => exact Or.inl (popped top' rfl)
  | hit top' _ => exact Or.inl (popped top' rfl)
  | miss _ _ => exact Or.inl (next_stage _ rfl nofun)
  | acquire _ _ => exact Or.inl (next_stage _ rfl nofun)
  | reuse _ _ => exact Or.inl (next_stage _ rfl nofun)
  | build _ _ => exact Or.inl (next_stage _ rfl nofun)
  | @succeed c _ _ _ _ top' =>
      by_cases same : caller = c
      · subst same
        rw [frames_withFrames_same] at top
        cases top
        exact Or.inr (buildEnd?_finish top' _)
      · exact Or.inl (elsewhere rfl same)
  | fail _ _ => exact Or.inl (next_stage _ rfl nofun)
  | commit _ => exact Or.inl (next_stage _ rfl nofun)
  | leave top' => exact Or.inl (popped top' rfl)
  | register => exact Or.inl top
  | remove => exact Or.inl top
  | look _ _ => exact Or.inl top
  | lookUnknown _ _ => exact Or.inl top
  | read _ => exact Or.inl top

/-- What a reader has got is what the slot holds that it has found. -/
theorem Move.looked_new (move : Move r label r') {g : EndedLook δ} (mem : g ∈ r'.looked) :
    g ∈ r.looked ∨ (g.slot = none ∧ g.plan = none) ∨
      ∃ slot, g.slot = some slot ∧ r.registry.committedAt slot = g.plan := by
  cases move with
  | lookUnknown _ _ =>
      rcases List.mem_cons.mp mem with rfl | mem
      · exact Or.inr (Or.inl ⟨rfl, rfl⟩)
      · exact Or.inl mem
  | @read _ _ slot _ =>
      rcases List.mem_cons.mp mem with rfl | mem
      · exact Or.inr (Or.inr ⟨slot, rfl, rfl⟩)
      · exact Or.inl mem
  | _ => exact Or.inl mem

end Steps

/-! ### Runs -/

section Runs

variable {start : Registry ρ δ} {history : History ρ δ} {r : Race ρ δ}

theorem guarded_of_run (run : Run step? { registry := start } history r) : r.Guarded :=
  run.keeps (fun taken guarded => guarded.move (move_of_step? taken)) (guarded_idle start)

@[simp] theorem builds_cons (r : Race ρ δ) (label : RaceStep ρ δ) (earlier : History ρ δ) :
    builds ((r, label) :: earlier) = (r.buildEnd? label).toList ++ builds earlier := by
  cases h : r.buildEnd? label <;> simp [builds, h]

theorem LookedUp.later {caller : Nat} {id : MethodId} {slot : Option Nat}
    (looked_up : LookedUp history caller id slot) (step : Race ρ δ × RaceStep ρ δ) :
    LookedUp (step :: history) caller id slot := by
  obtain ⟨r, rest, mem, top, slot_of⟩ := looked_up
  exact ⟨r, rest, List.mem_cons_of_mem _ mem, top, slot_of⟩

/-- Every resolve that has ended has found no slot, or has got a plan that its slot holds, or has
failed. -/
theorem ended_of_run (run : Run step? { registry := start } history r) :
    ∀ e ∈ r.ended, (e.slot = none ∧ e.result = .failed (.unknownMethod e.id)) ∨
      ∃ slot, e.slot = some slot ∧
        ∀ plan, e.result = .built plan → r.registry.committedAt slot = some plan := by
  induction run with
  | refl => exact nofun
  | step run taken ih =>
      intro e mem
      have move := move_of_step? taken
      rcases move.ended_new (guarded_of_run run) mem with old | unknown | ⟨slot, at_slot, holds⟩
      · rcases ih e old with unknown | ⟨slot, at_slot, holds⟩
        · exact Or.inl unknown
        · exact Or.inr ⟨slot, at_slot, fun plan built => move.committedAt_mono (holds plan built)⟩
      · exact Or.inl unknown
      · refine Or.inr ⟨slot, at_slot, fun plan built => move.committedAt_mono ?_⟩
        rw [holds, built]
        rfl

/-- Every resolve works on the slot that it has looked up. -/
theorem frames_looked_up_of_run (run : Run step? { registry := start } history r) :
    ∀ caller, ∀ frame ∈ r.frames caller, ∀ slot, frame.stage.slot? = some slot →
      LookedUp history caller frame.id (some slot) := by
  induction run with
  | refl => exact nofun
  | @step _ r _ _ _ taken ih =>
      intro caller frame mem slot at_slot
      rcases (move_of_step? taken).slot_of_frame mem at_slot with
        ⟨old, old_mem, same_id, old_slot⟩ | ⟨rfl, rest, top, slot_of⟩
      · rw [← same_id]
        exact (ih caller old old_mem slot old_slot).later _
      · exact ⟨r, rest, List.mem_cons_self, top, slot_of⟩

/-- Every resolve that has ended has looked its method up, and its slot is the one it has found. -/
theorem ended_looked_up_of_run (run : Run step? { registry := start } history r) :
    ∀ e ∈ r.ended, LookedUp history e.caller e.id e.slot := by
  induction run with
  | refl => exact nofun
  | @step history r r' label run taken ih =>
      intro e mem
      have frames := frames_looked_up_of_run run
      cases move_of_step? taken with
      | @unknown caller id rest top slot_of =>
          rcases List.mem_cons.mp mem with rfl | old
          · exact ⟨r, rest, List.mem_cons_self, top, slot_of⟩
          · exact (ih e old).later _
      | @hit caller id rest slot plan top _ =>
          rcases List.mem_cons.mp mem with rfl | old
          · exact (frames caller ⟨id, .check slot⟩ (by simp [top]) slot rfl).later _
          · exact (ih e old).later _
      | @leave caller id rest slot result top =>
          rcases List.mem_cons.mp mem with rfl | old
          · exact (frames caller ⟨id, .leave slot result⟩ (by simp [top]) slot rfl).later _
          · exact (ih e old).later _
      | _ => exact (ih e mem).later _

/-- A reader gets nothing but what the slot holds that it has found. -/
theorem looked_of_run (run : Run step? { registry := start } history r) :
    ∀ g ∈ r.looked, ∀ plan, g.plan = some plan →
      ∃ slot, g.slot = some slot ∧ r.registry.committedAt slot = some plan := by
  induction run with
  | refl => exact nofun
  | step _ taken ih =>
      intro g mem plan got
      have move := move_of_step? taken
      rcases move.looked_new mem with old | ⟨_, nothing⟩ | ⟨slot, at_slot, holds⟩
      · obtain ⟨slot, at_slot, holds⟩ := ih g old plan got
        exact ⟨slot, at_slot, move.committedAt_mono holds⟩
      · rw [nothing] at got
        cases got
      · exact ⟨slot, at_slot, move.committedAt_mono (holds.trans got)⟩

/-- The failures of a caller's builds are those that its resolves have returned, and the one that
its innermost resolve is about to return. -/
theorem failures_of_run (run : Run step? { registry := start } history r) (caller : Nat) :
    (builds history).filter (·.failedOf caller) =
      (r.leaving caller ++ r.ended).filter (·.failedOf caller) := by
  induction run with
  | refl => rfl
  | step run taken ih =>
      rw [(move_of_step? taken).failures (guarded_of_run run), builds_cons, List.filter_append,
        List.filter_append, ih]

/-- At most one build of a slot succeeds, and then the slot is settled. -/
theorem successes_of_run (run : Run step? { registry := start } history r) (slot : Nat) :
    ((builds history).filter (·.succeededOn slot)).length ≤ 1 ∧
      ((builds history).filter (·.succeededOn slot) ≠ [] → r.Settled slot) := by
  induction run with
  | refl => simp [builds]
  | @step earlier r r' label run taken ih =>
      have guarded := guarded_of_run run
      have move := move_of_step? taken
      cases ends : r.buildEnd? label with
      | none =>
          simp only [builds_cons, ends, Option.toList_none, List.nil_append]
          exact ⟨ih.1, fun some_build => move.settled guarded (ih.2 some_build)⟩
      | some b =>
          simp only [builds_cons, ends, Option.toList_some, List.singleton_append, List.filter_cons]
          obtain ⟨built_slot, rest, at_slot, top, commits⟩ := move.build_of_end ends
          split
          · next succeeded =>
            -- The slot is not settled while its build runs: no build of it has succeeded before.
            simp only [EndedResolve.succeededOn, at_slot, Bool.and_eq_true, beq_iff_eq,
              Option.some.injEq] at succeeded
            obtain ⟨rfl, made⟩ := succeeded
            have none_before : (builds earlier).filter (·.succeededOn built_slot) = [] :=
              Decidable.byContradiction fun some_build => guarded.not_settled top (ih.2 some_build)
            rw [none_before]
            refine ⟨Nat.le_refl 1, fun _ => Or.inr ?_⟩
            obtain ⟨plan, built⟩ := BuildEnd.exists_of_plan? made
            exact ⟨b.caller, b.id, plan, rest, commits plan built⟩
          · exact ⟨ih.1, fun some_build => move.settled guarded (ih.2 some_build)⟩

/-- A plan was there from the beginning, or a build of its slot has succeeded with it. -/
theorem origin_of_run (run : Run step? { registry := start } history r) :
    (∀ slot plan, r.registry.committedAt slot = some plan → start.committedAt slot = some plan ∨
      ∃ b ∈ builds history, b.slot = some slot ∧ b.result = .built plan) ∧
    ∀ caller id slot plan rest, r.frames caller = ⟨id, .commit slot plan⟩ :: rest →
      ⟨caller, id, some slot, .built plan⟩ ∈ builds history := by
  induction run with
  | refl => exact ⟨fun _ _ there => Or.inl there, nofun⟩
  | @step earlier r r' label run taken ih =>
      have guarded := guarded_of_run run
      have move := move_of_step? taken
      have later : ∀ {b}, b ∈ builds earlier → b ∈ builds ((r, label) :: earlier) := fun mem => by
        rw [builds_cons]
        exact List.mem_append_right _ mem
      refine ⟨fun slot plan there => ?_, fun caller id slot plan rest top => ?_⟩
      · rcases move.committedAt_new guarded there with there | ⟨caller, id, rest, top⟩
        · rcases ih.1 slot plan there with first | ⟨b, mem, built⟩
          · exact Or.inl first
          · exact Or.inr ⟨b, later mem, built⟩
        · exact Or.inr ⟨_, later (ih.2 caller id slot plan rest top), rfl, rfl⟩
      · rcases move.commit_new guarded top with top | ends
        · exact later (ih.2 caller id slot plan rest top)
        · simp [builds_cons, ends]

/-- Two resolves that hold the lock of one slot are the same. -/
theorem Guarded.alone (guarded : Guarded r) (slot : Nat) {c d i j : Nat} {f g : ResolveFrame δ}
    (at_i : (r.frames c)[i]? = some f) (at_j : (r.frames d)[j]? = some g)
    (f_holds : f.stage.held? = some slot) (g_holds : g.stage.held? = some slot) :
    c = d ∧ i = j := by
  have here : slot ∈ r.locks c :=
    List.mem_filterMap.mpr ⟨f, List.mem_of_getElem? at_i, f_holds⟩
  have there : slot ∈ r.locks d :=
    List.mem_filterMap.mpr ⟨g, List.mem_of_getElem? at_j, g_holds⟩
  obtain rfl := guarded.same_caller here there
  have apart := List.pairwise_iff_getElem.mp (List.pairwise_filterMap.mp (guarded.nodup c))
  obtain ⟨i_lt, rfl⟩ := List.getElem?_eq_some_iff.mp at_i
  obtain ⟨j_lt, rfl⟩ := List.getElem?_eq_some_iff.mp at_j
  refine ⟨rfl, ?_⟩
  rcases Nat.lt_trichotomy i j with before | same | after
  · exact absurd rfl (apart i j i_lt j_lt before slot f_holds slot g_holds)
  · exact same
  · exact absurd rfl (apart j i j_lt i_lt after slot g_holds slot f_holds)

/-- When a build has failed, a caller that waits for the lock gets it, checks again, and builds
for itself. -/
theorem Guarded.retry (guarded : Guarded r) {c d slot : Nat} {id other_id : MethodId}
    {result : BuildEnd δ} {rest other_rest : List (ResolveFrame δ)}
    (failed : r.frames d = ⟨other_id, .leave slot result⟩ :: other_rest)
    (no_plan : result.plan? = none) (waits : r.frames c = ⟨id, .acquire slot⟩ :: rest) :
    ∃ r', [.advance d, .advance c, .advance c].foldlM step? r = some r' ∧
      r'.building? c = some (id, slot) := by
  have different : c ≠ d := by
    rintro rfl
    rw [failed] at waits
    cases waits
  have absent : r.registry.committedAt slot = none := (guarded.fits_top failed).2.trans no_plan
  simp [step?, advance?, goto, finishFrame, failed, waits, different, absent, building?,
    List.foldlM]

end Runs

/-! ### What callers can rely on -/

/-- What holds after a run that began on the registry `start` with nobody at work. -/
structure CommitsOnce (start : Registry ρ δ) (history : History ρ δ) (r : Race ρ δ) : Prop where
  /-- A slot that had a plan at any time of the run has the same plan now. -/
  keeps : ∀ s label, (s, label) ∈ history → ∀ slot plan,
    s.registry.committedAt slot = some plan → r.registry.committedAt slot = some plan
  /-- A resolve ends with the slot that it has looked up. -/
  looked_up : ∀ e ∈ r.ended, LookedUp history e.caller e.id e.slot
  /-- A resolve that succeeds returns the plan of its slot. -/
  returns_committed : ∀ e ∈ r.ended, ∀ plan, e.result = .built plan →
    ∃ slot, e.slot = some slot ∧ r.registry.committedAt slot = some plan
  /-- So does a reader that gets a plan. -/
  reads_committed : ∀ g ∈ r.looked, ∀ plan, g.plan = some plan →
    ∃ slot, g.slot = some slot ∧ r.registry.committedAt slot = some plan
  /-- There is one build of a slot at a time. -/
  alone : ∀ (c d i j slot : Nat) (f g : ResolveFrame δ), (r.frames c)[i]? = some f →
    (r.frames d)[j]? = some g → f.stage = .building slot → g.stage = .building slot →
    c = d ∧ i = j
  /-- While a build runs, so also when it starts, its slot has no plan. -/
  unplanned : ∀ c, ∀ f ∈ r.frames c, ∀ slot, f.stage = .building slot →
    r.registry.committedAt slot = none
  /-- At most one build of a slot succeeds. -/
  one_success : ∀ slot, ((builds history).filter (·.succeededOn slot)).length ≤ 1
  /-- Only a build that succeeds brings a plan into a slot. -/
  only_built : ∀ slot plan, r.registry.committedAt slot = some plan →
    start.committedAt slot = some plan ∨
      ∃ b ∈ builds history, b.slot = some slot ∧ b.result = .built plan
  /-- A resolve that finds no slot says so. -/
  unknown : ∀ e ∈ r.ended, e.slot = none → e.result = .failed (.unknownMethod e.id)
  /-- All other failures that a caller gets are those of the builds that it has run itself, one for
  one and in the same order; the latest may still be on its way. -/
  own_failures : ∀ caller, (builds history).filter (·.failedOf caller) =
    (r.leaving caller ++ r.ended).filter (·.failedOf caller)
  /-- When a build has failed, a caller that waits for the lock gets it, checks again, and builds
  for itself. -/
  retries : ∀ c d slot id other_id result rest other_rest,
    r.frames d = ⟨other_id, .leave slot result⟩ :: other_rest → result.plan? = none →
    r.frames c = ⟨id, .acquire slot⟩ :: rest →
    ∃ r', [.advance d, .advance c, .advance c].foldlM step? r = some r' ∧
      r'.building? c = some (id, slot)

/-- Any number of callers, in any order of their steps, with methods added and removed in between:
a slot gets one plan at most, and everybody who gets a plan gets that of the slot found. -/
theorem commits_once (start : Registry ρ δ) {history : History ρ δ} {r : Race ρ δ}
    (run : Run step? { registry := start } history r) : CommitsOnce start history r where
  keeps s label mem slot plan there :=
    run.kept_since (fun taken => (move_of_step? taken).committedAt_mono) mem there
  looked_up := ended_looked_up_of_run run
  returns_committed e mem plan built := by
    rcases ended_of_run run e mem with ⟨_, unknown⟩ | ⟨slot, at_slot, holds⟩
    · rw [built] at unknown
      cases unknown
    · exact ⟨slot, at_slot, holds plan built⟩
  reads_committed := looked_of_run run
  alone c d i j slot f g at_i at_j f_builds g_builds :=
    (guarded_of_run run).alone slot at_i at_j (by rw [f_builds]; rfl) (by rw [g_builds]; rfl)
  unplanned c f mem slot building := by
    have fits := (guarded_of_run run).fits c f mem
    rw [building] at fits
    exact fits.2
  one_success slot := (successes_of_run run slot).1
  only_built := (origin_of_run run).1
  unknown e mem no_slot := by
    rcases ended_of_run run e mem with ⟨_, unknown⟩ | ⟨slot, at_slot, _⟩
    · exact unknown
    · rw [no_slot] at at_slot
      cases at_slot
  own_failures := failures_of_run run
  retries c d slot id other_id result rest other_rest failed no_plan waits :=
    (guarded_of_run run).retry failed no_plan waits

/-- A registry with one method. -/
def oneMethod : Registry Unit Nat := (Registry.empty.register ()).2

/-- Two callers resolve the method. While the first builds, the second comes to the lock and the
method is removed; the first fails, the second builds for itself. -/
def failureThenBuild : List (RaceStep Unit Nat) :=
  [.start 0 ⟨1⟩, .start 1 ⟨1⟩, .advance 0, .advance 1, .advance 0, .advance 1, .advance 0,
    .advance 0, .remove ⟨1⟩, .finish 0 (.failed .alreadyExecuted), .advance 0, .advance 1,
    .advance 1, .finish 1 (.built 7), .advance 1, .advance 1]

/-- The run of `failureThenBuild`: the failure goes to the first caller only. -/
theorem commits_once_after_failure : ∃ history r,
    Run step? { registry := oneMethod } history r ∧
      r.ended = [⟨1, ⟨1⟩, some 0, .built 7⟩, ⟨0, ⟨1⟩, some 0, .failed .alreadyExecuted⟩] ∧
      CommitsOnce oneMethod history r := by
  have ends : (failureThenBuild.foldlM step? { registry := oneMethod }).map (·.ended) =
      some [⟨1, ⟨1⟩, some 0, .built 7⟩, ⟨0, ⟨1⟩, some 0, .failed .alreadyExecuted⟩] := rfl
  obtain ⟨r, taken, ended⟩ := Option.map_eq_some_iff.mp ends
  obtain ⟨history, run⟩ := Run.of_foldlM taken
  exact ⟨history, r, run, ended, commits_once oneMethod run⟩

end Race

end RemoteCall
