import RemoteCall.Proofs.SceneMoves

/-!
The stages of overlapping operations on a scripted call.

`Scene.Fits` says what goes with each stage of an operation, `Scene.Parking` what can have become of
a callback that was left waiting, and `Scene.Sound` that all of it holds at once. One step of an
operation keeps its own stage right (`Acts.fits`) and leaves those of the others alone
(`Fits.later`), so every step of a scene keeps it sound (`Move.sound`).
-/

namespace RemoteCall

variable {σ : Type}

/-- No response is parsed to a refusal. -/
theorem parseResponse_ne_alreadyExecuted {convert : ResponseConverter σ} {raw : RawResponse}
    {plugins after : σ} {outcome : Outcome}
    (parse : parseResponse (m := StateM σ) convert raw plugins = (outcome, after)) :
    outcome ≠ .error .alreadyExecuted := by
  unfold parseResponse at parse
  split at parse
  · cases parse
    exact nofun
  · split at parse
    · cases parse
      exact nofun
    · rcases ran : convert raw.body plugins with ⟨fault | payload, rest⟩ <;>
      · simp only [bind, StateT.bind, ran] at parse
        cases parse
        exact nofun

theorem ScriptedCall.outcome?_ne_alreadyExecuted {γ : Type} {c : ScriptedCall σ γ}
    {plugins after : σ} {outcome : Outcome} (ran : c.outcome? plugins = (some outcome, after)) :
    outcome ≠ .error .alreadyExecuted := by
  unfold outcome? at ran
  cases script : c.script with
  | reply raw =>
      rw [script] at ran
      cases ran
      exact parseResponse_ne_alreadyExecuted rfl
  | fail error =>
      rw [script] at ran
      cases ran
      exact nofun
  | hang =>
      rw [script] at ran
      cases ran

namespace Scene

/-- The operation that has the right to run: the first that has asked for it. -/
def winner? (s : Scene σ) : Option Nat := s.asked.getLast?

/-- An operation has asked for the right to run, and the outcome that it reports tells whether it
was the first. -/
structure Right (s : Scene σ) (number : Nat) (outcome : Outcome) : Prop where
  asked : number ∈ s.asked
  refused : outcome = .error .alreadyExecuted ↔ s.winner? ≠ some number

/-- What goes with the stage of an operation. -/
inductive Fits (s : Scene σ) (number : Nat) : SceneOp → SceneStage → Prop where
  | begun {op : SceneOp} (named : ∀ callback, op = .enqueue callback → callback = number)
      (fresh : number ∉ s.asked) (idle : ∀ callback, (number, callback) ∉ s.taken) :
      Fits s number op .begun
  | enqueueClaimed (first : s.winner? = some number) (unparked : number ∉ s.parked) :
      Fits s number (.enqueue number) .claimed
  | enqueueTelling {outcome : Outcome} (right : s.Right number outcome) :
      Fits s number (.enqueue number) (.telling number outcome)
  | enqueueReturned (asked : number ∈ s.asked)
      (told : s.winner? ≠ some number → (number, .error .alreadyExecuted) ∈ s.heard) :
      Fits s number (.enqueue number) (.returned .done)
  | enqueuePanicked (asked : number ∈ s.asked)
      (told : s.winner? ≠ some number → (number, .error .alreadyExecuted) ∈ s.heard) :
      Fits s number (.enqueue number) .panicked
  | executeClaimed (first : s.winner? = some number) : Fits s number .execute .claimed
  | executeChecked (first : s.winner? = some number) : Fits s number .execute .checked
  | executeReturned {outcome : Outcome} (right : s.Right number outcome) :
      Fits s number .execute (.returned (.outcome outcome))
  | executePanicked (first : s.winner? = some number) : Fits s number .execute .panicked
  | cancelTelling {callback : Nat} {outcome : Outcome} (right : s.Right callback outcome)
      (stopped : s.call.canceled = true) : Fits s number .cancel (.telling callback outcome)
  | cancelReturned (stopped : s.call.canceled = true) : Fits s number .cancel (.returned .done)
  | cancelPanicked (stopped : s.call.canceled = true) : Fits s number .cancel .panicked
  | completeHolding {raw : RawResponse} {callback : Nat} (took : (number, callback) ∈ s.taken)
      (first : s.winner? = some callback) : Fits s number (.complete raw) (.holding callback)
  | completeTelling {raw : RawResponse} {callback : Nat} {outcome : Outcome}
      (took : (number, callback) ∈ s.taken) (right : s.Right callback outcome) :
      Fits s number (.complete raw) (.telling callback outcome)
  | completeReturned {raw : RawResponse} {there : Bool}
      (took : there = true ↔ ∃ callback, (number, callback) ∈ s.taken) :
      Fits s number (.complete raw) (.returned (.waited there))
  | completePanicked {raw : RawResponse} : Fits s number (.complete raw) .panicked

/-- What holds while a callback waits. -/
structure Waiting (s : Scene σ) (callback : Nat) : Prop where
  first : s.winner? = some callback
  parked : s.parked = [callback]
  taken : s.taken = []
  hangs : s.call.script = .hang
  active : s.call.canceled = false

/-- What can have become of a callback that was left waiting. Only the first that has asked for the
right to run can leave one. -/
inductive Parking (s : Scene σ) : Prop where
  | nobody (parked : s.parked = []) (taken : s.taken = []) (free : s.call.parked = none)
  | waits {callback : Nat} (waiting : s.Waiting callback) (there : s.call.parked = some callback)
  | ended {callback number : Nat} (first : s.winner? = some callback)
      (parked : s.parked = [callback]) (taken : s.taken = [(number, callback)])
      (free : s.call.parked = none)

/-- What holds of a scene at any time. -/
structure Sound (s : Scene σ) : Prop where
  fits : ∀ {number op stage}, s.ops[number]? = some (op, stage) → s.Fits number op stage
  executed : s.call.executed = s.winner?.isSome
  parking : s.Parking
  askers : ∀ number ∈ s.asked, ∃ op stage, s.ops[number]? = some (op, stage) ∧ op.asks
  takers : ∀ number callback, (number, callback) ∈ s.taken →
    ∃ op stage, s.ops[number]? = some (op, stage) ∧ ¬ op.asks
  told : ∀ number outcome, (number, outcome) ∈ s.heard → s.Right number outcome
  lost : ∀ callback ∈ s.lost, ∃ (number : Nat) (op : SceneOp), s.ops[number]? = some (op, .panicked)

/-- The logs after a step of one operation: they have grown by entries of its own at most. -/
structure Later (s t : Scene σ) (number : Nat) : Prop where
  asked : t.asked = s.asked ∨ t.asked = number :: s.asked
  parked : t.parked = s.parked ∨ t.parked = number :: s.parked
  taken : t.taken = s.taken ∨ ∃ callback, t.taken = (number, callback) :: s.taken
  heard : s.heard ⊆ t.heard
  canceled : s.call.canceled = true → t.call.canceled = true

section Steps

variable {s t : Scene σ} {number other : Nat} {op : SceneOp} {stage next : SceneStage}

theorem mem_asked_of_winner? (first : s.winner? = some number) : number ∈ s.asked :=
  List.mem_of_getLast? first

theorem Right.of_winner? {outcome : Outcome} (first : s.winner? = some number)
    (ran : outcome ≠ .error .alreadyExecuted) : s.Right number outcome :=
  ⟨mem_asked_of_winner? first, iff_of_false ran (not_not_intro first)⟩

namespace Later

/-- Who was first stays first. -/
theorem winner?_mono (later : Later s t number) {first : Nat} (won : s.winner? = some first) :
    t.winner? = some first := by
  unfold winner? at won ⊢
  rcases later.asked with same | more
  · rw [same, won]
  · rw [more, List.getLast?_cons, won]
    rfl

theorem winner?_eq (later : Later s t number) {asker : Nat} (asked : asker ∈ s.asked) :
    t.winner? = s.winner? := by
  cases first : s.winner? with
  | none =>
      rw [List.getLast?_eq_none_iff.mp first] at asked
      cases asked
  | some first => exact later.winner?_mono ‹_›

theorem asked_mono (later : Later s t number) {asker : Nat} (asked : asker ∈ s.asked) :
    asker ∈ t.asked := by
  rcases later.asked with same | more
  · rwa [same]
  · rw [more]
    exact List.mem_cons_of_mem _ asked

theorem asked_other (later : Later s t number) (different : other ≠ number) :
    other ∈ t.asked ↔ other ∈ s.asked := by
  rcases later.asked with same | more
  · rw [same]
  · rw [more, List.mem_cons, or_iff_right different]

theorem parked_other (later : Later s t number) (different : other ≠ number) :
    other ∈ t.parked ↔ other ∈ s.parked := by
  rcases later.parked with same | more
  · rw [same]
  · rw [more, List.mem_cons, or_iff_right different]

theorem taken_other (later : Later s t number) (different : other ≠ number) (callback : Nat) :
    (other, callback) ∈ t.taken ↔ (other, callback) ∈ s.taken := by
  rcases later.taken with same | ⟨first, more⟩
  · rw [same]
  · rw [more, List.mem_cons, or_iff_right (fun same => different (Prod.mk.inj same).1)]

theorem right (later : Later s t number) {asker : Nat} {outcome : Outcome}
    (right : s.Right asker outcome) : t.Right asker outcome := by
  refine ⟨later.asked_mono right.asked, ?_⟩
  rw [later.winner?_eq right.asked]
  exact right.refused

/-- An operation that has reported a refusal has done so for good. -/
theorem told (later : Later s t number) {asker : Nat} (asked : asker ∈ s.asked)
    (told : s.winner? ≠ some asker → (asker, .error .alreadyExecuted) ∈ s.heard)
    (lost : t.winner? ≠ some asker) : (asker, .error .alreadyExecuted) ∈ t.heard := by
  rw [later.winner?_eq asked] at lost
  exact later.heard (told lost)

end Later

/-- A step of one operation leaves the others as they are. -/
theorem Fits.later (fits : s.Fits other op stage) (later : Later s t number)
    (different : other ≠ number) : t.Fits other op stage := by
  cases fits with
  | begun named fresh idle =>
      refine .begun named (mt (later.asked_other different).mp fresh) fun callback took => ?_
      exact idle callback ((later.taken_other different callback).mp took)
  | enqueueClaimed first unparked =>
      exact .enqueueClaimed (later.winner?_mono first)
        (mt (later.parked_other different).mp unparked)
  | enqueueTelling right => exact .enqueueTelling (later.right right)
  | enqueueReturned asked told =>
      exact .enqueueReturned (later.asked_mono asked) (later.told asked told)
  | enqueuePanicked asked told =>
      exact .enqueuePanicked (later.asked_mono asked) (later.told asked told)
  | executeClaimed first => exact .executeClaimed (later.winner?_mono first)
  | executeChecked first => exact .executeChecked (later.winner?_mono first)
  | executeReturned right => exact .executeReturned (later.right right)
  | executePanicked first => exact .executePanicked (later.winner?_mono first)
  | cancelTelling right stopped => exact .cancelTelling (later.right right) (later.canceled stopped)
  | cancelReturned stopped => exact .cancelReturned (later.canceled stopped)
  | cancelPanicked stopped => exact .cancelPanicked (later.canceled stopped)
  | completeHolding took first =>
      exact .completeHolding ((later.taken_other different _).mpr took) (later.winner?_mono first)
  | completeTelling took right =>
      exact .completeTelling ((later.taken_other different _).mpr took) (later.right right)
  | completeReturned took =>
      refine .completeReturned (took.trans (exists_congr fun callback => ?_))
      exact (later.taken_other different callback).symm
  | completePanicked => exact .completePanicked

theorem Acts.ops_eq (acts : Acts s number op stage next t) : t.ops = s.ops := by
  cases acts <;> rfl

theorem Acts.later (acts : Acts s number op stage next t) (fits : s.Fits number op stage) :
    Later s t number := by
  cases acts with
  | first _ _ => exact ⟨Or.inr rfl, Or.inl rfl, Or.inl rfl, List.Subset.refl _, id⟩
  | refused _ _ => exact ⟨Or.inr rfl, Or.inl rfl, Or.inl rfl, List.Subset.refl _, id⟩
  | enqueueParks _ _ =>
      cases fits with
      | enqueueClaimed _ _ => exact ⟨Or.inl rfl, Or.inr rfl, Or.inl rfl, List.Subset.refl _, id⟩
  | cancelNobody _ =>
      exact ⟨Or.inl rfl, Or.inl rfl, Or.inl rfl, List.Subset.refl _, fun _ => rfl⟩
  | cancelTakes _ =>
      exact ⟨Or.inl rfl, Or.inl rfl, Or.inr ⟨_, rfl⟩, List.Subset.refl _, fun _ => rfl⟩
  | completeTakes _ =>
      exact ⟨Or.inl rfl, Or.inl rfl, Or.inr ⟨_, rfl⟩, List.Subset.refl _, id⟩
  | tells => exact ⟨Or.inl rfl, Or.inl rfl, Or.inl rfl, List.subset_cons_self _ _, id⟩
  | tellUnwinds => exact ⟨Or.inl rfl, Or.inl rfl, Or.inl rfl, List.subset_cons_self _ _, id⟩
  | _ => exact ⟨Or.inl rfl, Or.inl rfl, Or.inl rfl, List.Subset.refl _, id⟩

/-- The right to run is free as long as nobody has asked for it. -/
theorem Sound.free_iff (sound : s.Sound) : s.call.executed = false ↔ s.asked = [] := by
  rw [sound.executed, Option.isSome_eq_false_iff, Option.isNone_iff_eq_none]
  exact List.getLast?_eq_none_iff

namespace Parking

theorem of_there (parking : s.Parking) {callback : Nat} (there : s.call.parked = some callback) :
    s.Waiting callback := by
  cases parking with
  | nobody _ _ free =>
      rw [free] at there
      cases there
  | waits waiting here =>
      rw [here] at there
      cases there
      exact waiting
  | ended _ _ _ free =>
      rw [free] at there
      cases there

/-- Where nobody waits, nobody waits after a change of the call that parks nothing. -/
theorem of_nobody (parking : s.Parking) (nobody : s.call.parked = none)
    {call : ScriptedCall σ Nat} (free : call.parked = none) : { s with call }.Parking := by
  cases parking with
  | nobody parked taken _ => exact .nobody parked taken free
  | waits _ there =>
      rw [nobody] at there
      cases there
  | ended first parked taken _ => exact .ended first parked taken free

/-- As long as the first has not left its callback waiting, there is nothing to take. -/
theorem none_of_first (parking : s.Parking) (first : s.winner? = some number)
    (unparked : number ∉ s.parked) : s.parked = [] ∧ s.taken = [] ∧ s.call.parked = none := by
  cases parking with
  | nobody parked taken free => exact ⟨parked, taken, free⟩
  | waits waiting _ =>
      obtain rfl := Option.some.inj (waiting.first.symm.trans first)
      exact absurd (waiting.parked ▸ List.mem_singleton_self _) unparked
  | ended other parked _ _ =>
      obtain rfl := Option.some.inj (other.symm.trans first)
      exact absurd (parked ▸ List.mem_singleton_self _) unparked

theorem later (parking : s.Parking) (later : Later s t number) (parked : t.parked = s.parked)
    (taken : t.taken = s.taken) (there : t.call.parked = s.call.parked)
    (script : t.call.script = s.call.script) (canceled : t.call.canceled = s.call.canceled) :
    t.Parking := by
  cases parking with
  | nobody nothing untaken free =>
      exact .nobody (parked.trans nothing) (taken.trans untaken) (there.trans free)
  | waits waiting here =>
      refine .waits ?_ (there.trans here)
      exact ⟨later.winner?_mono waiting.first, parked.trans waiting.parked,
        taken.trans waiting.taken, script.trans waiting.hangs, canceled.trans waiting.active⟩
  | ended first one once free =>
      exact .ended (later.winner?_mono first) (parked.trans one) (taken.trans once)
        (there.trans free)

/-- Only the first that has asked leaves a callback waiting. -/
theorem first_of_mem (parking : s.Parking) (mem : number ∈ s.parked) :
    s.winner? = some number := by
  cases parking with
  | nobody parked _ _ =>
      rw [parked] at mem
      cases mem
  | waits waiting _ =>
      rw [waiting.parked, List.mem_singleton] at mem
      rw [mem, waiting.first]
  | ended first parked _ _ =>
      rw [parked, List.mem_singleton] at mem
      rwa [mem]

end Parking

theorem fits_of_refused (asks : op.asks)
    (named : ∀ callback, op = .enqueue callback → callback = number)
    (right : s.Right number (.error .alreadyExecuted)) : s.Fits number op op.refused := by
  cases op with
  | enqueue callback =>
      obtain rfl := named callback rfl
      exact .enqueueTelling right
  | execute => exact .executeReturned right
  | cancel => cases asks
  | complete raw => cases asks

theorem fits_of_claimed (asks : op.asks)
    (named : ∀ callback, op = .enqueue callback → callback = number)
    (first : s.winner? = some number) (unparked : number ∉ s.parked) :
    s.Fits number op .claimed := by
  cases op with
  | enqueue callback =>
      obtain rfl := named callback rfl
      exact .enqueueClaimed first unparked
  | execute => exact .executeClaimed first
  | cancel => cases asks
  | complete raw => cases asks

/-- A callback that is told of is one that has been told, afterwards. -/
theorem told_of_right {outcome : Outcome} (right : s.Right number outcome)
    (lost : s.winner? ≠ some number) :
    (number, .error .alreadyExecuted) ∈ (s.tell number outcome).heard := by
  obtain rfl := right.refused.mpr lost
  exact List.mem_cons_self

theorem Acts.fits (acts : Acts s number op stage next t) (sound : s.Sound)
    (fits : s.Fits number op stage) : (t.put number op next).Fits number op next := by
  cases acts with
  | first asks free =>
      cases fits with
      | begun named fresh _ =>
          have nobody := sound.free_iff.mp free
          refine fits_of_claimed asks named ?_ fun mem =>
            fresh (mem_asked_of_winner? (sound.parking.first_of_mem mem))
          simp [winner?, put, nobody]
  | refused asks used =>
      cases fits with
      | begun named fresh _ =>
          -- Somebody has asked before, so the winner is not the operation that asks now.
          obtain ⟨first, before⟩ := Option.isSome_iff_exists.mp (sound.executed ▸ used)
          have still : s.asked.getLast? = some first := before
          refine fits_of_refused asks named ⟨List.mem_cons_self, iff_of_true rfl fun won => ?_⟩
          rw [winner?, put, List.getLast?_cons, still] at won
          obtain rfl : first = number := Option.some.inj won
          exact fresh (mem_asked_of_winner? before)
  | enqueueCanceled _ =>
      cases fits with
      | enqueueClaimed first _ => exact .enqueueTelling (.of_winner? first nofun)
  | enqueueEnds _ ran =>
      cases fits with
      | enqueueClaimed first _ =>
          exact .enqueueTelling (.of_winner? first (ScriptedCall.outcome?_ne_alreadyExecuted ran))
  | enqueueParks _ _ =>
      cases fits with
      | enqueueClaimed first _ =>
          exact .enqueueReturned (mem_asked_of_winner? first) (absurd first)
  | enqueueUnwinds =>
      cases fits with
      | enqueueClaimed first _ =>
          exact .enqueuePanicked (mem_asked_of_winner? first) (absurd first)
  | executeCanceled =>
      cases fits with
      | executeClaimed first => exact .executeReturned (.of_winner? first nofun)
  | executeChecks =>
      cases fits with
      | executeClaimed first => exact .executeChecked first
  | @executeEnds outcome? _ ran =>
      cases fits with
      | executeChecked first =>
          refine .executeReturned (.of_winner? first ?_)
          cases outcome? with
          | none => exact nofun
          | some outcome => exact ScriptedCall.outcome?_ne_alreadyExecuted ran
  | executeUnwinds =>
      cases fits with
      | executeChecked first => exact .executePanicked first
  | cancelNobody _ => exact .cancelReturned rfl
  | cancelTakes waits =>
      exact .cancelTelling (.of_winner? (sound.parking.of_there waits).first nofun) rfl
  | completeNobody _ =>
      cases fits with
      | begun _ _ idle =>
          refine .completeReturned (iff_of_false Bool.false_ne_true ?_)
          rintro ⟨callback, took⟩
          exact idle callback took
  | completeTakes waits =>
      exact .completeHolding List.mem_cons_self (sound.parking.of_there waits).first
  | completeParses parse =>
      cases fits with
      | completeHolding took first =>
          exact .completeTelling took
            (.of_winner? first (parseResponse_ne_alreadyExecuted parse))
  | completeUnwinds => exact .completePanicked
  | tells =>
      cases fits with
      | enqueueTelling right => exact .enqueueReturned right.asked (told_of_right right)
      | cancelTelling _ stopped => exact .cancelReturned stopped
      | completeTelling took _ => exact .completeReturned (iff_of_true rfl ⟨_, took⟩)
  | tellUnwinds =>
      cases fits with
      | enqueueTelling right => exact .enqueuePanicked right.asked (told_of_right right)
      | cancelTelling _ stopped => exact .cancelPanicked stopped
      | completeTelling _ _ => exact .completePanicked

theorem Acts.executed_iff (acts : Acts s number op stage next t) (sound : s.Sound) :
    t.call.executed = t.winner?.isSome := by
  cases acts with
  | first _ _ => simp [winner?]
  | refused _ _ => simp [winner?]
  | _ => exact sound.executed

theorem Acts.parking (acts : Acts s number op stage next t) (sound : s.Sound)
    (fits : s.Fits number op stage) : t.Parking := by
  have later := acts.later fits
  cases acts with
  | enqueueParks active hangs =>
      cases fits with
      | enqueueClaimed first unparked =>
          obtain ⟨parked, taken, _⟩ := sound.parking.none_of_first first unparked
          exact .waits ⟨first, congrArg _ parked, taken, hangs, active⟩ rfl
  | cancelNobody nobody => exact sound.parking.of_nobody nobody rfl
  | completeNobody nobody => exact sound.parking.of_nobody nobody rfl
  | cancelTakes waits =>
      have waiting := sound.parking.of_there waits
      exact .ended waiting.first waiting.parked (congrArg _ waiting.taken) rfl
  | completeTakes waits =>
      have waiting := sound.parking.of_there waits
      exact .ended waiting.first waiting.parked (congrArg _ waiting.taken) rfl
  | _ => exact sound.parking.later later rfl rfl rfl rfl rfl

theorem Acts.askers (acts : Acts s number op stage next t)
    (there : s.ops[number]? = some (op, stage))
    (sound : s.Sound) :
    ∀ asker ∈ t.asked, ∃ op stage, s.ops[asker]? = some (op, stage) ∧ op.asks := by
  cases acts with
  | first asks _ =>
      exact List.forall_mem_cons.mpr ⟨⟨op, .begun, there, asks⟩, sound.askers⟩
  | refused asks _ =>
      exact List.forall_mem_cons.mpr ⟨⟨op, .begun, there, asks⟩, sound.askers⟩
  | _ => exact sound.askers

theorem Acts.takers (acts : Acts s number op stage next t)
    (there : s.ops[number]? = some (op, stage))
    (sound : s.Sound) : ∀ taker callback, (taker, callback) ∈ t.taken →
      ∃ op stage, s.ops[taker]? = some (op, stage) ∧ ¬ op.asks := by
  cases acts with
  | cancelTakes _ =>
      rintro taker callback (_ | ⟨_, took⟩)
      · exact ⟨_, _, there, Bool.false_ne_true⟩
      · exact sound.takers taker callback took
  | completeTakes _ =>
      rintro taker callback (_ | ⟨_, took⟩)
      · exact ⟨_, _, there, Bool.false_ne_true⟩
      · exact sound.takers taker callback took
  | _ => exact sound.takers

/-- What is told is right. -/
theorem Fits.right {callback : Nat} {outcome : Outcome}
    (fits : s.Fits number op (.telling callback outcome)) : s.Right callback outcome := by
  cases fits with
  | enqueueTelling right => exact right
  | cancelTelling right _ => exact right
  | completeTelling _ right => exact right

theorem Acts.told (acts : Acts s number op stage next t) (sound : s.Sound)
    (fits : s.Fits number op stage) :
    ∀ teller outcome, (teller, outcome) ∈ t.heard → t.Right teller outcome := by
  have later := acts.later fits
  have before : ∀ teller outcome, (teller, outcome) ∈ s.heard → t.Right teller outcome :=
    fun teller outcome mem => later.right (sound.told teller outcome mem)
  cases acts with
  | tells =>
      rintro teller outcome (_ | ⟨_, mem⟩)
      · exact later.right fits.right
      · exact before teller outcome mem
  | tellUnwinds =>
      rintro teller outcome (_ | ⟨_, mem⟩)
      · exact later.right fits.right
      · exact before teller outcome mem
  | _ => exact before

/-- A callback is lost only when the operation that has it panics. -/
theorem Acts.lost (acts : Acts s number op stage next t) :
    t.lost = s.lost ∨ (next = .panicked ∧ ∃ callback, t.lost = callback :: s.lost) := by
  cases acts with
  | enqueueUnwinds => exact Or.inr ⟨rfl, _, rfl⟩
  | completeUnwinds => exact Or.inr ⟨rfl, _, rfl⟩
  | _ => exact Or.inl rfl

theorem getElem?_put_same (s : Scene σ) (op : SceneOp) (next : SceneStage)
    (bound : number < s.ops.length) :
    (s.put number op next).ops[number]? = some (op, next) :=
  List.getElem?_set_self bound

theorem getElem?_put_other (s : Scene σ) (different : other ≠ number) :
    (s.put number op next).ops[other]? = s.ops[other]? :=
  List.getElem?_set_ne different.symm

/-- An operation stays the operation that it is. -/
theorem op_put (next : SceneStage) {first : SceneOp × SceneStage}
    (there : s.ops[number]? = some (op, stage)) (found : s.ops[other]? = some first) :
    ∃ stage, (s.put number op next).ops[other]? = some (first.1, stage) := by
  by_cases same : other = number
  · subst same
    obtain rfl := Option.some.inj (found.symm.trans there)
    exact ⟨next, getElem?_put_same s op next (List.getElem?_eq_some_iff.mp there).1⟩
  · exact ⟨first.2, (getElem?_put_other s same).trans found⟩

/-- A change of the operations leaves the logs alone. -/
theorem Later.of_same (asked : t.asked = s.asked) (parked : t.parked = s.parked)
    (taken : t.taken = s.taken) (heard : t.heard = s.heard) (call : t.call = s.call) :
    Later s t number :=
  ⟨Or.inl asked, Or.inl parked, Or.inl taken, heard ▸ List.Subset.refl _, fun h => call ▸ h⟩

theorem Later.put (s : Scene σ) (number : Nat) (op : SceneOp) (stage : SceneStage) :
    Later s (s.put number op stage) number :=
  .of_same rfl rfl rfl rfl rfl

/-- An operation that has panicked does nothing any more. -/
theorem Acts.not_panicked (acts : Acts s number op stage next t) : stage ≠ .panicked := by
  cases acts <;> exact nofun

theorem Sound.act (sound : s.Sound) (there : s.ops[number]? = some (op, stage))
    (acts : Acts s number op stage next t) : (t.put number op next).Sound := by
  have fits := sound.fits there
  have put := Later.put t number op next
  have here : t.ops[number]? = some (op, stage) := acts.ops_eq ▸ there
  have now := getElem?_put_same t op next (List.getElem?_eq_some_iff.mp here).1
  constructor
  case fits =>
    intro other op' stage' found
    by_cases same : other = number
    · subst same
      rw [now] at found
      cases found
      exact acts.fits sound fits
    · rw [getElem?_put_other t same, acts.ops_eq] at found
      exact ((sound.fits found).later (acts.later fits) same).later put same
  case executed => exact acts.executed_iff sound
  case parking => exact (acts.parking sound fits).later put rfl rfl rfl rfl rfl
  case askers =>
    intro asker asked
    obtain ⟨op', stage', found, asks⟩ := acts.askers there sound asker asked
    obtain ⟨now, still⟩ := op_put next here (acts.ops_eq ▸ found)
    exact ⟨op', now, still, asks⟩
  case takers =>
    intro taker callback took
    obtain ⟨op', stage', found, asks⟩ := acts.takers there sound taker callback took
    obtain ⟨now, still⟩ := op_put next here (acts.ops_eq ▸ found)
    exact ⟨op', now, still, asks⟩
  case told =>
    intro teller outcome mem
    exact put.right (acts.told sound fits teller outcome mem)
  case lost =>
    have before : ∀ callback ∈ s.lost, ∃ (other : Nat) (op' : SceneOp),
        (t.put number op next).ops[other]? = some (op', .panicked) := by
      intro callback lost
      obtain ⟨other, op', found⟩ := sound.lost callback lost
      refine ⟨other, op', ?_⟩
      have different : other ≠ number := by
        rintro rfl
        exact acts.not_panicked (Prod.mk.inj (Option.some.inj (there.symm.trans found))).2
      rw [getElem?_put_other t different, acts.ops_eq, found]
    rcases acts.lost with same | ⟨rfl, callback, more⟩
    · exact fun callback lost => before callback (same ▸ lost)
    · show ∀ callback ∈ t.lost, _
      rw [more]
      exact List.forall_mem_cons.mpr ⟨⟨number, op, now⟩, before⟩

theorem Sound.begin (sound : s.Sound)
    (named : ∀ callback, op = .enqueue callback → callback = s.ops.length) :
    (s.begin op).Sound := by
  have began : Later s (s.begin op) s.ops.length := .of_same rfl rfl rfl rfl rfl
  have kept : ∀ {other : Nat} {first}, s.ops[other]? = some first →
      (s.begin op).ops[other]? = some first := by
    intro other first found
    exact (List.getElem?_append_left (List.getElem?_eq_some_iff.mp found).1).trans found
  constructor
  case fits =>
    intro other op' stage' found
    by_cases old : other < s.ops.length
    · have found : s.ops[other]? = some (op', stage') :=
        (List.getElem?_append_left old).symm.trans found
      exact (sound.fits found).later began (Nat.ne_of_lt old)
    · -- The new operation has a number that no log has yet.
      have new : (s.begin op).ops[other]? = [(op, SceneStage.begun)][other - s.ops.length]? :=
        List.getElem?_append_right (Nat.le_of_not_lt old)
      rw [new, List.getElem?_singleton] at found
      split at found
      · next here =>
        obtain rfl : other = s.ops.length := by omega
        cases found
        refine .begun named (fun asked => ?_) fun callback took => ?_
        · obtain ⟨_, _, there, _⟩ := sound.askers _ asked
          exact old (List.getElem?_eq_some_iff.mp there).1
        · obtain ⟨_, _, there, _⟩ := sound.takers _ _ took
          exact old (List.getElem?_eq_some_iff.mp there).1
      · cases found
  case executed => exact sound.executed
  case parking => exact sound.parking.later began rfl rfl rfl rfl rfl
  case askers =>
    intro asker asked
    obtain ⟨op', stage', found, asks⟩ := sound.askers asker asked
    exact ⟨op', stage', kept found, asks⟩
  case takers =>
    intro taker callback took
    obtain ⟨op', stage', found, asks⟩ := sound.takers taker callback took
    exact ⟨op', stage', kept found, asks⟩
  case told =>
    intro teller outcome mem
    exact began.right (sound.told teller outcome mem)
  case lost =>
    intro callback lost
    obtain ⟨other, op', found⟩ := sound.lost callback lost
    exact ⟨other, op', kept found⟩

theorem Sound.plugins (sound : s.Sound) (state : σ) : ({ s with plugins := state }).Sound := by
  have same : ∀ number, Later s { s with plugins := state } number :=
    fun _ => .of_same rfl rfl rfl rfl rfl
  constructor
  case fits =>
    intro number op stage found
    exact (sound.fits found).later (same (number + 1)) (Nat.ne_of_lt (Nat.lt_succ_self _))
  case executed => exact sound.executed
  case parking => exact sound.parking.later (same 0) rfl rfl rfl rfl rfl
  case askers => exact sound.askers
  case takers => exact sound.takers
  case told => exact fun teller outcome mem => (same 0).right (sound.told teller outcome mem)
  case lost => exact sound.lost

theorem Move.sound {label : SceneStep σ} (move : Move s label t) (sound : s.Sound) : t.Sound := by
  cases move with
  | begin starts =>
      refine sound.begin fun callback brings => ?_
      subst brings
      cases label <;> cases starts
      rfl
  | act _ there acts => exact sound.act there acts
  | plugins => exact sound.plugins _

end Steps

end Scene

end RemoteCall
