import RemoteCall.Call.Scene

/-!
What the steps of a scene do.

`Scene.Acts` lists the ways in which an operation can go from one stage to the next, each with what
else it changes, and `Scene.Move` the ways a step of a scene can go. All later statements on scenes
are drawn from `Scene.move_of_step?`. The steps of an operation that nobody interrupts come to what
`ScriptedCall` does all at once (`Scene.goes_whole`).
-/

namespace RemoteCall

variable {σ : Type}

namespace SceneOp

/-- Whether an operation asks for the right to run. -/
def asks : SceneOp → Bool
  | enqueue _ | execute => true
  | cancel | complete _ => false

/-- The callback that an operation brings. -/
def callback? : SceneOp → Option Nat
  | enqueue callback => some callback
  | _ => none

/-- What an operation comes to that does not get the right to run. -/
def refused : SceneOp → SceneStage
  | enqueue callback => .telling callback (.error .alreadyExecuted)
  | _ => .returned (.outcome (.error .alreadyExecuted))

/-- An operation made all at once: what callbacks hear, what it returns, and the call after it. -/
def whole (c : ScriptedCall σ Nat) :
    SceneOp → StateM σ (List (Nat × Outcome) × SceneResult × ScriptedCall σ Nat)
  | enqueue callback => do
    let (outcome?, c) ← c.enqueue callback
    return ((outcome?.map (callback, ·)).toList, .done, c)
  | execute => do
    let (outcome, c) ← c.execute
    return ([], .outcome outcome, c)
  | cancel => do
    let (callback?, c) := c.stop
    return ((callback?.map (·, .error .canceled)).toList, .done, c)
  | complete raw => do
    let (told?, c) ← c.complete raw
    return (told?.toList, .waited told?.isSome, c)

end SceneOp

/-- The operation that a step starts as the one with the given number. -/
def SceneStep.op? (number : Nat) : SceneStep σ → Option SceneOp
  | enqueue => some (.enqueue number)
  | execute => some .execute
  | cancel => some .cancel
  | complete raw => some (.complete raw)
  | _ => none

/-- The callbacks that an operation has in its hands. -/
def SceneStage.held (op : SceneOp) : SceneStage → List Nat
  | begun | claimed => op.callback?.toList
  | holding callback | telling callback _ => [callback]
  | checked | returned _ | panicked => []

namespace Scene

/-- An operation goes from one stage to another, and what else has changed then. -/
inductive Acts (s : Scene σ) (number : Nat) :
    SceneOp → SceneStage → SceneStage → Scene σ → Prop where
  | first {op : SceneOp} (asks : op.asks) (free : s.call.executed = false) :
      Acts s number op .begun .claimed
        { s with call := { s.call with executed := true }, asked := number :: s.asked }
  | refused {op : SceneOp} (asks : op.asks) (used : s.call.executed = true) :
      Acts s number op .begun op.refused
        { s with call := { s.call with executed := true }, asked := number :: s.asked }
  | enqueueCanceled {callback : Nat} (canceled : s.call.canceled = true) :
      Acts s number (.enqueue callback) .claimed (.telling callback (.error .canceled)) s
  | enqueueEnds {callback : Nat} {outcome : Outcome} {plugins : σ}
      (active : s.call.canceled = false)
      (ran : s.call.outcome? s.plugins = (some outcome, plugins)) :
      Acts s number (.enqueue callback) .claimed (.telling callback outcome) { s with plugins }
  | enqueueParks {callback : Nat} (active : s.call.canceled = false)
      (hangs : s.call.script = .hang) :
      Acts s number (.enqueue callback) .claimed (.returned .done)
        { s with call := { s.call with parked := some callback }, parked := callback :: s.parked }
  | enqueueUnwinds {callback : Nat} :
      Acts s number (.enqueue callback) .claimed .panicked { s with lost := callback :: s.lost }
  | executeCanceled : Acts s number .execute .claimed (.returned (.outcome (.error .canceled))) s
  | executeChecks : Acts s number .execute .claimed .checked s
  | executeEnds {outcome? : Option Outcome} {plugins : σ}
      (ran : s.call.outcome? s.plugins = (outcome?, plugins)) :
      Acts s number .execute .checked
        (.returned (.outcome (outcome?.getD (.error (.transport .timeout))))) { s with plugins }
  | executeUnwinds : Acts s number .execute .checked .panicked s
  | cancelNobody (nobody : s.call.parked = none) :
      Acts s number .cancel .begun (.returned .done)
        { s with call := { s.call with canceled := true, parked := none } }
  | cancelTakes {callback : Nat} (waits : s.call.parked = some callback) :
      Acts s number .cancel .begun (.telling callback (.error .canceled)) { s with
        call := { s.call with canceled := true, parked := none }
        taken := (number, callback) :: s.taken }
  | completeNobody {raw : RawResponse} (nobody : s.call.parked = none) :
      Acts s number (.complete raw) .begun (.returned (.waited false))
        { s with call := { s.call with parked := none } }
  | completeTakes {raw : RawResponse} {callback : Nat} (waits : s.call.parked = some callback) :
      Acts s number (.complete raw) .begun (.holding callback) { s with
        call := { s.call with parked := none }
        taken := (number, callback) :: s.taken }
  | completeParses {raw : RawResponse} {callback : Nat} {outcome : Outcome} {plugins : σ}
      (parse : parseResponse (m := StateM σ) s.call.converter raw s.plugins = (outcome, plugins)) :
      Acts s number (.complete raw) (.holding callback) (.telling callback outcome)
        { s with plugins }
  | completeUnwinds {raw : RawResponse} {callback : Nat} :
      Acts s number (.complete raw) (.holding callback) .panicked
        { s with lost := callback :: s.lost }
  | tells {op : SceneOp} {callback : Nat} {outcome : Outcome} :
      Acts s number op (.telling callback outcome) (.returned op.result) (s.tell callback outcome)
  | tellUnwinds {op : SceneOp} {callback : Nat} {outcome : Outcome} :
      Acts s number op (.telling callback outcome) .panicked (s.tell callback outcome)

/-- A step and the state that it leads to. -/
inductive Move (s : Scene σ) : SceneStep σ → Scene σ → Prop where
  | begin {label : SceneStep σ} {op : SceneOp} (starts : label.op? s.ops.length = some op) :
      Move s label (s.begin op)
  | act {label : SceneStep σ} {number : Nat} {op : SceneOp} {stage next : SceneStage}
      {after : Scene σ} (starts : ∀ length, label.op? length = none)
      (there : s.ops[number]? = some (op, stage)) (acts : Acts s number op stage next after) :
      Move s label (after.put number op next)
  | plugins {state : σ} : Move s (.plugins state) { s with plugins := state }

/-- Only a hanging script has no outcome. -/
theorem hang_of_outcome? {c : ScriptedCall σ Nat} {plugins after : σ}
    (ran : c.outcome? plugins = (none, after)) : c.script = .hang ∧ after = plugins := by
  unfold ScriptedCall.outcome? at ran
  cases script : c.script with
  | reply raw =>
      rw [script] at ran
      cases ran
  | fail error =>
      rw [script] at ran
      cases ran
  | hang =>
      rw [script] at ran
      cases ran
      exact ⟨rfl, rfl⟩

theorem acts_of_ask {s : Scene σ} {number : Nat} {op : SceneOp} (asks : op.asks) :
    Acts s number op .begun (if (s.ask number).1 then .claimed else op.refused)
      (s.ask number).2 := by
  unfold ask ScriptedCall.claim
  cases used : s.call.executed with
  | false => exact .first asks used
  | true => exact .refused asks used

/-- Under the lock, and without a cancellation, the script decides whether the callback waits. -/
theorem settle_of_active {c : ScriptedCall σ Nat} (active : c.canceled = false) (callback : Nat)
    (plugins : σ) : c.settle callback plugins =
      match c.outcome? plugins with
      | (some outcome, after) => ((some outcome, c), after)
      | (none, after) => ((none, { c with parked := some callback }), after) := by
  unfold ScriptedCall.settle
  rw [if_neg (Bool.eq_false_iff.mp active)]
  rcases ran : c.outcome? plugins with ⟨_ | outcome, after⟩ <;>
  · simp only [bind, StateT.bind, ran]
    rfl

theorem acts_of_settle {s after : Scene σ} {number callback : Nat} {next : SceneStage}
    (taken : s.advance? number (.enqueue callback) .claimed = some (next, after)) :
    Acts s number (.enqueue callback) .claimed next after := by
  dsimp only [advance?] at taken
  cases canceled : s.call.canceled with
  | true =>
      rw [ScriptedCall.settle, if_pos canceled] at taken
      cases taken
      exact .enqueueCanceled canceled
  | false =>
      rw [settle_of_active canceled] at taken
      rcases ran : s.call.outcome? s.plugins with ⟨_ | outcome, plugins⟩
      · rw [ran] at taken
        cases taken
        obtain ⟨hangs, rfl⟩ := hang_of_outcome? ran
        exact .enqueueParks canceled hangs
      · rw [ran] at taken
        cases taken
        exact .enqueueEnds canceled ran

/-- Every step of an operation is one of the acts. -/
theorem acts_of_advance? {s after : Scene σ} {number : Nat} {op : SceneOp}
    {stage next : SceneStage} (taken : s.advance? number op stage = some (next, after)) :
    Acts s number op stage next after := by
  cases stage with
  | begun =>
      cases op with
      | enqueue callback =>
          cases taken
          exact acts_of_ask rfl
      | execute =>
          cases taken
          exact acts_of_ask rfl
      | cancel =>
          dsimp only [advance?, ScriptedCall.stop, ScriptedCall.unpark] at taken
          cases waits : s.call.parked with
          | none =>
              rw [waits] at taken
              cases taken
              exact .cancelNobody waits
          | some callback =>
              rw [waits] at taken
              cases taken
              exact .cancelTakes waits
      | complete raw =>
          dsimp only [advance?, ScriptedCall.unpark] at taken
          cases waits : s.call.parked with
          | none =>
              rw [waits] at taken
              cases taken
              exact .completeNobody waits
          | some callback =>
              rw [waits] at taken
              cases taken
              exact .completeTakes waits
  | claimed =>
      cases op with
      | enqueue callback => exact acts_of_settle taken
      | execute =>
          dsimp only [advance?] at taken
          cases canceled : s.call.canceled with
          | true =>
              rw [canceled] at taken
              cases taken
              exact .executeCanceled
          | false =>
              rw [canceled] at taken
              cases taken
              exact .executeChecks
      | cancel => cases taken
      | complete raw => cases taken
  | checked =>
      cases op with
      | execute =>
          cases taken
          exact .executeEnds rfl
      | _ => cases taken
  | holding callback =>
      cases op with
      | complete raw =>
          cases taken
          exact .completeParses rfl
      | _ => cases taken
  | telling callback outcome =>
      cases op <;> cases taken <;> exact .tells
  | returned result => cases op <;> cases taken
  | panicked => cases op <;> cases taken

theorem acts_of_unwind? {s after : Scene σ} {number : Nat} {op : SceneOp} {stage : SceneStage}
    (taken : s.unwind? op stage = some after) : Acts s number op stage .panicked after := by
  cases stage with
  | begun => cases op <;> cases taken
  | claimed =>
      cases op with
      | enqueue callback =>
          dsimp only [unwind?] at taken
          split at taken
          · cases taken
            exact .enqueueUnwinds
          · cases taken
      | _ => cases taken
  | checked =>
      cases op with
      | execute =>
          dsimp only [unwind?] at taken
          split at taken
          · cases taken
            exact .executeUnwinds
          · cases taken
      | _ => cases taken
  | holding callback =>
      cases op with
      | complete raw =>
          cases taken
          exact .completeUnwinds
      | _ => cases taken
  | telling callback outcome =>
      cases op <;> cases taken <;> exact .tellUnwinds
  | returned result => cases op <;> cases taken
  | panicked => cases op <;> cases taken

/-- Every step is one of the moves. -/
theorem move_of_step? {s s' : Scene σ} {label : SceneStep σ} (taken : s.step? label = some s') :
    Move s label s' := by
  cases label with
  | enqueue =>
      cases taken
      exact .begin rfl
  | execute =>
      cases taken
      exact .begin rfl
  | cancel =>
      cases taken
      exact .begin rfl
  | complete raw =>
      cases taken
      exact .begin rfl
  | advance number =>
      obtain ⟨⟨op, stage⟩, there, taken⟩ := Option.bind_eq_some_iff.mp taken
      obtain ⟨⟨next, after⟩, acts, taken⟩ := Option.bind_eq_some_iff.mp taken
      cases taken
      exact .act (fun _ => rfl) there (acts_of_advance? acts)
  | unwind number =>
      obtain ⟨⟨op, stage⟩, there, taken⟩ := Option.bind_eq_some_iff.mp taken
      obtain ⟨after, acts, taken⟩ := Option.bind_eq_some_iff.mp taken
      cases taken
      exact .act (fun _ => rfl) there (acts_of_unwind? acts)
  | plugins state =>
      cases taken
      exact .plugins

/-! ### Operations that nobody interrupts -/

/-- Some steps of an operation, one after the other. -/
def goOn (number : Nat) (op : SceneOp) : Nat → SceneStage → Scene σ → SceneStage × Scene σ
  | 0, stage, s => (stage, s)
  | steps + 1, stage, s =>
    match s.advance? number op stage with
    | none => (stage, s)
    | some (next, t) => goOn number op steps next t

/-- The steps of an operation come to what it does all at once. -/
structure Whole (s : Scene σ) (number : Nat) (op : SceneOp) (told : List (Nat × Outcome))
    (result : SceneResult) (t : Scene σ) : Prop where
  steps : goOn number op 3 .begun s = (.returned result, t)
  heard : t.heard = told ++ s.heard
  whole : op.whole s.call s.plugins = ((told, result, t.call), t.plugins)

theorem enqueue_of_free {c : ScriptedCall σ Nat} (free : c.executed = false) (callback : Nat) :
    c.enqueue callback = ({ c with executed := true } : ScriptedCall σ Nat).settle callback := by
  obtain ⟨request, converter, script, executed, canceled, parked⟩ := c
  cases free
  rfl

theorem whole_enqueue (s : Scene σ) (number callback : Nat) :
    ∃ told result t, s.Whole number (.enqueue callback) told result t := by
  let asked := (s.ask number).2
  cases used : s.call.executed with
  | true =>
      refine ⟨[(callback, .error .alreadyExecuted)], .done,
        asked.tell callback (.error .alreadyExecuted), ?_, rfl, ?_⟩
      · simp [goOn, advance?, ask, ScriptedCall.claim, used, SceneOp.result, asked]
      · simp only [SceneOp.whole, ScriptedCall.enqueue, ScriptedCall.claim, used, bind, StateT.bind]
        rfl
  | false =>
      rcases ran : asked.call.settle callback s.plugins with ⟨⟨_ | outcome, call⟩, plugins⟩
      · refine ⟨[], .done, { asked with call, plugins, parked := callback :: s.parked }, ?_, rfl,
          ?_⟩
        · simp [goOn, advance?, ask, ScriptedCall.claim, used, asked] at ran ⊢
          simp [ran]
        · simp only [asked, ask, ScriptedCall.claim] at ran
          simp only [SceneOp.whole, bind, StateT.bind, enqueue_of_free used, ran]
          rfl
      · refine ⟨[(callback, outcome)], .done, { asked with call, plugins }.tell callback outcome,
          ?_, rfl, ?_⟩
        · simp [goOn, advance?, ask, ScriptedCall.claim, used, SceneOp.result, asked] at ran ⊢
          simp [ran]
        · simp only [asked, ask, ScriptedCall.claim] at ran
          simp only [SceneOp.whole, bind, StateT.bind, enqueue_of_free used, ran]
          rfl

theorem execute_of_free {c : ScriptedCall σ Nat} (free : c.executed = false) (plugins : σ) :
    c.execute plugins =
      if c.canceled then ((.error .canceled, { c with executed := true }), plugins)
      else (((c.outcome? plugins).1.getD (.error (.transport .timeout)),
        { c with executed := true }), (c.outcome? plugins).2) := by
  obtain ⟨request, converter, script, executed, canceled, parked⟩ := c
  cases free
  cases canceled <;> rfl

theorem whole_execute (s : Scene σ) (number : Nat) :
    ∃ told result t, s.Whole number .execute told result t := by
  let asked := (s.ask number).2
  cases used : s.call.executed with
  | true =>
      refine ⟨[], .outcome (.error .alreadyExecuted), asked, ?_, rfl, ?_⟩
      · simp [goOn, advance?, ask, ScriptedCall.claim, used, asked]
      · simp only [SceneOp.whole, ScriptedCall.execute, ScriptedCall.claim, used, bind, StateT.bind]
        rfl
  | false =>
      cases canceled : s.call.canceled with
      | true =>
          refine ⟨[], .outcome (.error .canceled), asked, ?_, rfl, ?_⟩
          · simp [goOn, advance?, ask, ScriptedCall.claim, used, canceled, asked]
          · simp only [SceneOp.whole, bind, StateT.bind, execute_of_free used, if_pos canceled]
            rfl
      | false =>
          let ran := s.call.outcome? s.plugins
          refine ⟨[], .outcome (ran.1.getD (.error (.transport .timeout))),
            { asked with plugins := ran.2 }, ?_, rfl, ?_⟩
          · simp only [goOn, advance?, ask, ScriptedCall.claim, used, canceled, asked]
            rfl
          · have active := Bool.eq_false_iff.mp canceled
            simp only [SceneOp.whole, bind, StateT.bind, execute_of_free used, if_neg active]
            rfl

theorem whole_cancel (s : Scene σ) (number : Nat) :
    ∃ told result t, s.Whole number .cancel told result t := by
  rcases stopped : s.call.stop with ⟨_ | callback, call⟩
  · refine ⟨[], .done, { s with call }, ?_, rfl, ?_⟩
    · simp [goOn, advance?, stopped]
    · rw [SceneOp.whole, stopped]
      rfl
  · refine ⟨[(callback, .error .canceled)], .done,
      ({ s with call }.take number callback).tell callback (.error .canceled), ?_, rfl, ?_⟩
    · simp [goOn, advance?, stopped, SceneOp.result]
    · rw [SceneOp.whole, stopped]
      rfl

theorem whole_complete (s : Scene σ) (number : Nat) (raw : RawResponse) :
    ∃ told result t, s.Whole number (.complete raw) told result t := by
  rcases taken : s.call.unpark with ⟨_ | callback, call⟩
  · refine ⟨[], .waited false, { s with call }, ?_, rfl, ?_⟩
    · simp [goOn, advance?, taken]
    · simp only [SceneOp.whole, ScriptedCall.complete, taken, bind, StateT.bind]
      rfl
  · rcases parse : parseResponse (m := StateM σ) call.converter raw s.plugins with
      ⟨outcome, plugins⟩
    refine ⟨[(callback, outcome)], .waited true,
      ({ s with call, plugins }.take number callback).tell callback outcome, ?_, rfl, ?_⟩
    · simp [goOn, advance?, taken, take, parse, SceneOp.result]
    · simp only [SceneOp.whole, ScriptedCall.complete, taken, bind, StateT.bind, parse]
      rfl

/-- An operation that nobody interrupts is made as if all at once. -/
theorem goes_whole (s : Scene σ) (number : Nat) (op : SceneOp) :
    ∃ told result t, s.Whole number op told result t := by
  cases op with
  | enqueue callback => exact s.whole_enqueue number callback
  | execute => exact s.whole_execute number
  | cancel => exact s.whole_cancel number
  | complete raw => exact s.whole_complete number raw
end Scene
end RemoteCall
