import Mathlib.Data.Fintype.Order
import Mathlib.Logic.Relation
import RemoteCall.Proofs.CommitOnce
import RemoteCall.Proofs.Registrations

/-!
Callers wait for nobody but who builds the same method, and never in a circle.

Builds may resolve further methods, as long as there is a strict order of the ids in which they only
go down (`Race.descend?`). Two things then hold after every run beside `Race.Guarded`: the slot that
a resolve has found is one of its own method (`Placed`), and the resolves of a caller go down from
the outermost to the innermost (`Nested`). So whoever waits for a lock waits for a caller whose own
resolves inside the lock have smaller ids. `never_deadlocks` draws from this that a caller who can
not go on waits for one method that somebody else is in the critical section of, that the waiting
has no circles, and that behind all waiting stands a caller who can go on.
-/

namespace RemoteCall

variable {ρ δ : Type}

namespace Registry

/-- The id of the method that a slot is for. -/
def idAt (r : Registry ρ δ) (slot : Nat) : Option MethodId := r.slots[slot]?.map Slot.id

@[simp] theorem idAt_remove (r : Registry ρ δ) (id : MethodId) (slot : Nat) :
    (r.remove id).idAt slot = r.idAt slot := by
  obtain ⟨live, removed⟩ := getElem?_remove r id slot
  rw [idAt, idAt, removed, Option.map_map]
  rfl

@[simp] theorem idAt_commit (r : Registry ρ δ) (filled : Nat) (plan : δ) (slot : Nat) :
    (r.commit filled plan).idAt slot = r.idAt slot := by
  have kept := map_slots_commit (f := Slot.id) (fun _ _ => rfl) r filled plan
  rw [idAt, idAt, ← List.getElem?_map, ← List.getElem?_map, kept]

/-- A registration only adds a slot. -/
theorem idAt_register {r : Registry ρ δ} {slot : Nat} {id : MethodId}
    (there : r.idAt slot = some id) (entry : ρ) :
    (r.register entry).2.idAt slot = some id := by
  have removed := (idAt_remove r ⟨r.nextId⟩ slot).trans there
  obtain ⟨s, old, same⟩ := Option.map_eq_some_iff.mp removed
  have before := (List.getElem?_eq_some_iff.mp old).1
  change ((r.remove ⟨r.nextId⟩).slots ++ _)[slot]?.map Slot.id = some id
  rw [List.getElem?_append_left before, old, Option.map_some, same]

theorem idAt_of_slotOf? {r : Registry ρ δ} {slot : Nat} {id : MethodId}
    (found : r.slotOf? id = some slot) : r.idAt slot = some id := by
  have before := lt_length_of_slotOf? found
  have there := List.getElem?_eq_getElem before
  rw [idAt, there, Option.map_some, id_of_slot found there]

end Registry

theorem ResolveStage.slot?_of_held? {stage : ResolveStage δ} {slot : Nat}
    (held : stage.held? = some slot) : stage.slot? = some slot := by
  cases stage with
  | lookup => cases held
  | check other => cases held
  | acquire other => cases held
  | recheck other => exact held
  | building other => exact held
  | commit other plan => exact held
  | leave other result => exact held

namespace Race

section Order

variable (below : MethodId → MethodId → Prop)

/-- The steps of callers whose builds only resolve methods below their own. -/
def descend? [DecidableRel below] (r : Race ρ δ) (label : RaceStep ρ δ) : Option (Race ρ δ) :=
  match label with
  | .start caller id =>
    match r.building? caller with
    | some (outer, _) => if below id outer then r.step? (.start caller id) else none
    | none => r.step? (.start caller id)
  | label => r.step? label

/-- The resolves of each caller go down from the outermost to the innermost. -/
def Nested (r : Race ρ δ) : Prop :=
  ∀ caller, (r.frames caller).Pairwise fun inner outer => below inner.id outer.id

end Order

/-- The slot that a resolve has found is one of its method. -/
def Placed (r : Race ρ δ) : Prop :=
  ∀ caller, ∀ frame ∈ r.frames caller, ∀ slot, frame.stage.slot? = some slot →
    r.registry.idAt slot = some frame.id

/-- A caller has a resolve in progress that it can neither take a step of nor end a build of. -/
def Stuck (r : Race ρ δ) (caller : Nat) : Prop :=
  r.frames caller ≠ [] ∧ r.step? (.advance caller) = none ∧
    ∀ result, r.step? (.finish caller result) = none

/-- A caller is in the critical section of a method: one of its resolves holds the lock. -/
def Inside (r : Race ρ δ) (caller : Nat) (id : MethodId) (slot : Nat) : Prop :=
  ∃ frame ∈ r.frames caller, frame.id = id ∧ frame.stage.held? = some slot

/-- A caller is at a lock that another one holds, or that it holds itself. -/
def WaitsFor (r : Race ρ δ) (caller other : Nat) : Prop :=
  ∃ id slot rest, r.frames caller = ⟨id, .acquire slot⟩ :: rest ∧ r.holder slot = some other

/-! ### Steps -/

section Steps

variable {r r' : Race ρ δ} {label : RaceStep ρ δ}

theorem Move.idAt_mono (move : Move r label r') {slot : Nat} {id : MethodId}
    (there : r.registry.idAt slot = some id) : r'.registry.idAt slot = some id := by
  cases move with
  | commit _ => exact (Registry.idAt_commit ..).trans there
  | register => exact Registry.idAt_register there _
  | remove => exact (Registry.idAt_remove ..).trans there
  | _ => exact there

theorem Placed.move (placed : Placed r) (move : Move r label r') : Placed r' := by
  intro caller frame mem slot at_slot
  rcases move.slot_of_frame mem at_slot with ⟨old, old_mem, same_id, old_slot⟩ | ⟨_, _, _, slot_of⟩
  · rw [← same_id]
    exact move.idAt_mono (placed caller old old_mem slot old_slot)
  · exact move.idAt_mono (Registry.idAt_of_slotOf? slot_of)

variable {below : MethodId → MethodId → Prop}

/-- Other callers keep their resolves, so only those of the caller at work matter. -/
theorem Nested.withFrames (nested : Nested below r) {caller : Nat} {frames : List (ResolveFrame δ)}
    (changed : r'.frames = update r.frames caller frames)
    (down : frames.Pairwise fun inner outer => below inner.id outer.id) : Nested below r' := by
  intro other
  rw [changed]
  by_cases same : other = caller
  · subst same
    rw [update_same]
    exact down
  · rw [update_other _ _ same]
    exact nested other

/-- A resolve that goes to another stage stays where it is in the order. -/
theorem Nested.next_stage (nested : Nested below r) {caller : Nat} {id : MethodId}
    {stage next : ResolveStage δ} {rest : List (ResolveFrame δ)}
    (top : r.frames caller = ⟨id, stage⟩ :: rest)
    (changed : r'.frames = update r.frames caller (⟨id, next⟩ :: rest)) : Nested below r' := by
  have down := nested caller
  rw [top, List.pairwise_cons] at down
  exact nested.withFrames changed (List.pairwise_cons.mpr down)

theorem Nested.pop (nested : Nested below r) {caller : Nat} {frame : ResolveFrame δ}
    {rest : List (ResolveFrame δ)} (top : r.frames caller = frame :: rest)
    (changed : r'.frames = update r.frames caller rest) : Nested below r' := by
  have down := nested caller
  rw [top, List.pairwise_cons] at down
  exact nested.withFrames changed down.2

/-- A resolve that begins within a build is below it, hence below all resolves around the build. -/
theorem Nested.start [IsTrans MethodId below] (nested : Nested below r) {caller : Nat}
    {id : MethodId} (may : r.mayStart caller = true)
    (descends : ∀ outer slot, r.building? caller = some (outer, slot) → below id outer) :
    Nested below (r.withFrames caller (⟨id, .lookup⟩ :: r.frames caller)) := by
  refine nested.withFrames rfl (List.pairwise_cons.mpr ⟨?_, nested caller⟩)
  intro frame mem
  simp only [mayStart, Bool.or_eq_true, List.isEmpty_iff, Option.isSome_iff_exists] at may
  rcases may with idle | ⟨⟨outer, slot⟩, running⟩
  · rw [idle] at mem
    cases mem
  · obtain ⟨rest, top⟩ := building?_eq_some.mp running
    have first := descends outer slot running
    have down := nested caller
    rw [top] at mem
    rw [top, List.pairwise_cons] at down
    rcases List.mem_cons.mp mem with rfl | behind
    · exact first
    · exact IsTrans.trans _ _ _ first (down.1 frame behind)

theorem Nested.move [IsTrans MethodId below] (nested : Nested below r) (move : Move r label r')
    (descends : ∀ caller id, label = .start caller id →
      ∀ outer slot, r.building? caller = some (outer, slot) → below id outer) :
    Nested below r' := by
  cases move with
  | start may => exact nested.start may (descends _ _ rfl)
  | found top _ => exact nested.next_stage top rfl
  | unknown top _ => exact nested.pop top rfl
  | hit top _ => exact nested.pop top rfl
  | miss top _ => exact nested.next_stage top rfl
  | acquire top _ => exact nested.next_stage top rfl
  | reuse top _ => exact nested.next_stage top rfl
  | build top _ => exact nested.next_stage top rfl
  | succeed top => exact nested.next_stage top rfl
  | fail top _ => exact nested.next_stage top rfl
  | commit top => exact nested.next_stage top rfl
  | leave top => exact nested.pop top rfl
  | register => exact nested
  | remove => exact nested
  | look _ _ => exact nested
  | lookUnknown _ _ => exact nested
  | read _ => exact nested

/-- What goes down is a step, and begins a resolve within a build only below it. -/
theorem step?_of_descend? [DecidableRel below] (taken : r.descend? below label = some r') :
    r.step? label = some r' ∧ ∀ caller id, label = .start caller id →
      ∀ outer slot, r.building? caller = some (outer, slot) → below id outer := by
  cases label with
  | start caller id =>
      simp only [descend?] at taken
      split at taken
      · rename_i outer slot running
        split at taken
        · rename_i down
          refine ⟨taken, ?_⟩
          rintro _ _ ⟨⟩ outer' slot' running'
          rw [running] at running'
          cases running'
          exact down
        · cases taken
      · rename_i idle
        refine ⟨taken, ?_⟩
        rintro _ _ ⟨⟩ outer slot running
        rw [idle] at running
        cases running
  | _ => exact ⟨taken, nofun⟩

end Steps

/-! ### Waiting -/

section Waiting

variable {r : Race ρ δ} {below : MethodId → MethodId → Prop} {caller other : Nat}

/-- The only place at which a caller can be stuck is a lock that is held. -/
theorem Stuck.at_lock (stuck : r.Stuck caller) :
    ∃ id slot rest holder, r.frames caller = ⟨id, .acquire slot⟩ :: rest ∧
      r.holder slot = some holder := by
  obtain ⟨at_work, no_step, no_end⟩ := stuck
  obtain ⟨⟨id, stage⟩, rest, top⟩ := List.exists_cons_of_ne_nil at_work
  simp only [step?, advance?, top] at no_step
  cases stage with
  | acquire slot =>
      simp only at no_step
      split at no_step
      · rename_i holder held
        exact ⟨id, slot, rest, holder, top, held⟩
      · cases no_step
  | building slot =>
      have running := building?_eq_some.mpr ⟨rest, top⟩
      have ended := no_end .panicked
      rw [step?, running] at ended
      cases ended
  | lookup =>
      simp only at no_step
      split at no_step
      · cases no_step
      · cases no_step
  | check slot =>
      simp only at no_step
      split at no_step
      · cases no_step
      · cases no_step
  | recheck slot =>
      simp only at no_step
      split at no_step
      · cases no_step
      · cases no_step
  | commit slot plan => cases no_step
  | leave slot result => cases no_step

/-- A resolve that holds the lock of the slot that another one has found is one of the same
method. -/
theorem Guarded.inside_of_holder (guarded : Guarded r) (placed : Placed r) {id : MethodId}
    {slot : Nat} (at_slot : r.registry.idAt slot = some id) (held : r.holder slot = some other) :
    r.Inside other id slot := by
  obtain ⟨frame, mem, holds⟩ := List.mem_filterMap.mp ((guarded.holder_iff slot other).mp held)
  have of_frame := placed other frame mem slot (ResolveStage.slot?_of_held? holds)
  rw [at_slot] at of_frame
  exact ⟨frame, mem, (Option.some.inj of_frame).symm, holds⟩

/-- Where a caller waits it has no lock, so what it is inside of is above the method that it waits
for. -/
theorem Nested.below_of_inside (nested : Nested below r) {id inside : MethodId} {slot held : Nat}
    {rest : List (ResolveFrame δ)} (top : r.frames caller = ⟨id, .acquire slot⟩ :: rest)
    (within : r.Inside caller inside held) : below id inside := by
  obtain ⟨frame, mem, rfl, holds⟩ := within
  have down := nested caller
  rw [top] at mem
  rw [top, List.pairwise_cons] at down
  rcases List.mem_cons.mp mem with rfl | behind
  · cases holds
  · exact down.1 frame behind

/-- At the end of a chain of waiting callers, the last is inside of a method that the first waits
for, or of one below it. -/
theorem Nested.chain [IsTrans MethodId below] (nested : Nested below r) (guarded : Guarded r)
    (placed : Placed r) (chain : Relation.TransGen r.WaitsFor caller other) :
    ∃ id slot rest, r.frames caller = ⟨id, .acquire slot⟩ :: rest ∧
      ∃ inside held, r.Inside other inside held ∧ (inside = id ∨ below inside id) := by
  have waits : ∀ {waiter holder}, r.WaitsFor waiter holder → ∃ id slot rest,
      r.frames waiter = ⟨id, .acquire slot⟩ :: rest ∧ r.Inside holder id slot := by
    rintro waiter holder ⟨id, slot, rest, top, held⟩
    have at_slot := placed waiter ⟨id, .acquire slot⟩ (by simp [top]) slot rfl
    exact ⟨id, slot, rest, top, guarded.inside_of_holder placed at_slot held⟩
  induction chain with
  | single first =>
      obtain ⟨id, slot, rest, top, within⟩ := waits first
      exact ⟨id, slot, rest, top, id, slot, within, Or.inl rfl⟩
  | tail _ last ih =>
      obtain ⟨id, slot, rest, top, inside, held, within, under⟩ := ih
      obtain ⟨id', slot', rest', top', within'⟩ := waits last
      refine ⟨id, slot, rest, top, id', slot', within', Or.inr ?_⟩
      have lower := nested.below_of_inside top' within
      rcases under with rfl | lower'
      · exact lower
      · exact IsTrans.trans _ _ _ lower lower'

/-- Behind a caller at a lock stands one that can go on: along the waiting the methods go down, and
there are only finitely many ids. -/
theorem Nested.mover [IsStrictOrder MethodId below] (nested : Nested below r) (guarded : Guarded r)
    (placed : Placed r) (stuck : r.Stuck caller) :
    ∃ mover, Relation.ReflTransGen r.WaitsFor caller mover ∧ r.frames mover ≠ [] ∧
      ¬ r.Stuck mover := by
  have finite : Finite MethodId := by
    refine Finite.of_injective (fun id => id.number.toFin) ?_
    rintro ⟨_⟩ ⟨_⟩ same
    exact congrArg MethodId.mk (UInt64.toFin_inj.mp same)
  suffices ∀ id caller slot rest, r.frames caller = ⟨id, .acquire slot⟩ :: rest →
      r.Stuck caller → ∃ mover, Relation.ReflTransGen r.WaitsFor caller mover ∧
        r.frames mover ≠ [] ∧ ¬ r.Stuck mover by
    obtain ⟨id, slot, rest, _, top, _⟩ := stuck.at_lock
    exact this id caller slot rest top stuck
  intro id
  induction id using (Finite.wellFounded_of_trans_of_irrefl below).induction with
  | _ id ih =>
      intro caller slot rest top stuck
      obtain ⟨_, _, _, other, top', held⟩ := stuck.at_lock
      rw [top] at top'
      cases top'
      have at_slot := placed caller ⟨id, .acquire slot⟩ (by simp [top]) slot rfl
      have within := guarded.inside_of_holder placed at_slot held
      have waits : r.WaitsFor caller other := ⟨id, slot, rest, top, held⟩
      by_cases stuck' : r.Stuck other
      · obtain ⟨id', slot', rest', _, top', _⟩ := stuck'.at_lock
        have lower := nested.below_of_inside top' within
        obtain ⟨mover, chain, at_work, free⟩ := ih id' lower other slot' rest' top' stuck'
        exact ⟨mover, .head waits chain, at_work, free⟩
      · obtain ⟨frame, mem, _⟩ := within
        exact ⟨other, .single waits, List.ne_nil_of_mem mem, stuck'⟩

end Waiting

/-! ### What callers can rely on -/

/-- What holds after a run in which builds only resolve methods below their own. -/
structure NeverDeadlocks (r : Race ρ δ) : Prop where
  /-- A caller that can not go on waits for the lock of one method, and another caller is in the
  critical section of this method. -/
  waits : ∀ caller, r.Stuck caller → ∃ id slot rest other,
    r.frames caller = ⟨id, .acquire slot⟩ :: rest ∧ r.holder slot = some other ∧
      other ≠ caller ∧ r.Inside other id slot
  /-- Nobody waits for himself, by way of whomever. -/
  acyclic : ∀ caller, ¬ Relation.TransGen r.WaitsFor caller caller
  /-- Behind every resolve in progress stands one that can go on. -/
  progress : ∀ caller, r.frames caller ≠ [] → ∃ mover,
    Relation.ReflTransGen r.WaitsFor caller mover ∧ r.frames mover ≠ [] ∧ ¬ r.Stuck mover
  /-- A resolve whose first check finds a plan ends with this check, whoever holds the lock. -/
  hit : ∀ caller id slot plan rest, r.frames caller = ⟨id, .check slot⟩ :: rest →
    r.registry.committedAt slot = some plan → r.step? (.advance caller) =
      some (r.withEnded caller rest ⟨caller, id, some slot, .built plan⟩)

theorem NeverDeadlocks.of_invariants {r : Race ρ δ} (below : MethodId → MethodId → Prop)
    [IsStrictOrder MethodId below] (guarded : Guarded r) (placed : Placed r)
    (nested : Nested below r) : NeverDeadlocks r where
  waits caller stuck := by
    obtain ⟨id, slot, rest, other, top, held⟩ := stuck.at_lock
    have at_slot := placed caller ⟨id, .acquire slot⟩ (by simp [top]) slot rfl
    have within := guarded.inside_of_holder placed at_slot held
    refine ⟨id, slot, rest, other, top, held, ?_, within⟩
    rintro rfl
    exact Std.Irrefl.irrefl id (nested.below_of_inside top within)
  acyclic caller circle := by
    obtain ⟨id, slot, rest, top, inside, held, within, under⟩ := nested.chain guarded placed circle
    have behind := nested.below_of_inside top within
    rcases under with rfl | under
    · exact Std.Irrefl.irrefl _ behind
    · exact Std.Irrefl.irrefl _ (IsTrans.trans _ _ _ behind under)
  progress caller at_work := by
    by_cases stuck : r.Stuck caller
    · exact nested.mover guarded placed stuck
    · exact ⟨caller, .refl, at_work, stuck⟩
  hit caller id slot plan rest top there := by
    simp only [step?, advance?, top, there]
    rw [finishFrame_of_top top]

/-- Any number of callers, in any order of their steps, with methods added and removed in between
and with resolves inside of builds: nobody is held up but by who is building the same method, and
somebody can always go on. -/
theorem never_deadlocks (below : MethodId → MethodId → Prop) [DecidableRel below]
    [IsStrictOrder MethodId below] (start : Registry ρ δ) {history : History ρ δ} {r : Race ρ δ}
    (run : Run (descend? below) { registry := start } history r) : NeverDeadlocks r := by
  have guarded := guarded_of_run (run.mono fun taken => (step?_of_descend? taken).1)
  have placed : Placed r := run.keeps (fun taken placed =>
    placed.move (move_of_step? (step?_of_descend? taken).1)) nofun
  have nested : Nested below r := run.keeps (fun taken nested => by
    obtain ⟨step, descends⟩ := step?_of_descend? taken
    exact nested.move (move_of_step? step) descends) fun _ => .nil
  exact .of_invariants below guarded placed nested

/-- The order of registration. -/
def registeredBefore (a b : MethodId) : Prop := a.number < b.number

instance : DecidableRel registeredBefore :=
  fun a b => inferInstanceAs (Decidable (a.number < b.number))

instance : IsStrictOrder MethodId registeredBefore where
  irrefl a := UInt64.lt_irrefl a.number
  trans _ _ _ first second := UInt64.lt_trans first second

/-- The first caller builds the second method, and for that resolves the first, which the second
caller builds. The third caller wants the second method, too. -/
def waitingInLine : List (RaceStep Unit Nat) :=
  [.start 0 ⟨2⟩, .advance 0, .advance 0, .advance 0, .advance 0, .start 1 ⟨1⟩, .advance 1,
    .advance 1, .advance 1, .advance 1, .start 0 ⟨1⟩, .advance 0, .advance 0, .start 2 ⟨2⟩,
    .advance 2, .advance 2]

/-- The run of `waitingInLine`: the third caller waits for the first, and the first for the
second. -/
theorem never_deadlocks_in_line : ∃ history r,
    Run (descend? registeredBefore) { registry := (oneMethod.register ()).2 } history r ∧
      r.WaitsFor 2 0 ∧ r.WaitsFor 0 1 ∧ r.building? 1 = some (⟨1⟩, 0) ∧ NeverDeadlocks r := by
  have ends : (waitingInLine.foldlM (descend? registeredBefore)
      { registry := (oneMethod.register ()).2 }).map
        (fun r => (r.frames 2, r.frames 0, r.holder 1, r.holder 0, r.building? 1)) =
      some ([⟨⟨2⟩, .acquire 1⟩], [⟨⟨1⟩, .acquire 0⟩, ⟨⟨2⟩, .building 1⟩], some 0, some 1,
        some (⟨1⟩, 0)) := rfl
  obtain ⟨r, taken, same⟩ := Option.map_eq_some_iff.mp ends
  simp only [Prod.mk.injEq] at same
  obtain ⟨third, first, held_two, held_one, builds⟩ := same
  obtain ⟨history, run⟩ := Run.of_foldlM taken
  exact ⟨history, r, run, ⟨_, _, _, third, held_two⟩, ⟨_, _, _, first, held_one⟩, builds,
    never_deadlocks registeredBefore _ run⟩

end Race

end RemoteCall
