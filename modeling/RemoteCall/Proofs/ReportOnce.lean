import Mathlib.Data.List.Perm.Basic
import RemoteCall.Proofs.Run
import RemoteCall.Proofs.SceneSound

/-!
A scripted call reports once to each callback.

Operations on one scripted call overlap in any way, step by step. `Move.count` counts the callbacks
through a step, and `Sound.moves_on` says that no operation waits for another. From these and from
what is sound at any time, `reports_once` draws what callers can rely on.
-/

namespace RemoteCall

variable {σ : Type}

/-- How many steps an operation has left at most. -/
def SceneStage.left : SceneStage → Nat
  | begun => 3
  | claimed | holding _ => 2
  | checked | telling _ _ => 1
  | returned _ | panicked => 0

namespace Scene

/-- The callbacks that operations have in their hands. -/
def held (s : Scene σ) : List Nat := s.ops.flatMap fun (op, stage) => stage.held op

section Steps

variable {s t : Scene σ} {number other : Nat} {op : SceneOp} {stage next : SceneStage}

/-! ### Callbacks are counted -/

/-- How often a callback is anywhere. -/
def count (s : Scene σ) (callback : Nat) : Nat :=
  (s.heard.map (·.1)).count callback + s.held.count callback +
    s.call.parked.toList.count callback + s.lost.count callback

/-- Of the callbacks in the hands of all operations, only those of the one that moves change. -/
theorem count_held_put (next : SceneStage) (there : s.ops[number]? = some (op, stage))
    (callback : Nat) :
    (s.put number op next).held.count callback + (stage.held op).count callback =
      s.held.count callback + (next.held op).count callback := by
  obtain ⟨bound, here⟩ := List.getElem?_eq_some_iff.mp there
  let hands : SceneOp × SceneStage → List Nat := fun (op, stage) => stage.held op
  have before := ((List.getElem_cons_eraseIdx_perm bound).flatMap_right hands).count_eq callback
  have after :=
    ((List.set_perm_cons_eraseIdx bound (op, next)).flatMap_right hands).count_eq callback
  rw [here, List.flatMap_cons, List.count_append] at before
  rw [List.flatMap_cons, List.count_append] at after
  have rearranged : ∀ {a b c d e : Nat}, a + b = c → d = e + b → d + a = c + e := by omega
  exact rearranged before after

/-- A step of an operation moves callbacks from one place to another. -/
theorem Acts.count (acts : Acts s number op stage next t) (sound : s.Sound)
    (fits : s.Fits number op stage) (callback : Nat) :
    t.count callback + (next.held op).count callback =
      s.count callback + (stage.held op).count callback := by
  cases acts with
  | refused asks _ =>
      cases op with
      | enqueue _ => rfl
      | execute => rfl
      | cancel => cases asks
      | complete raw => cases asks
  | enqueueParks _ _ =>
      cases fits with
      | enqueueClaimed first unparked =>
          obtain ⟨_, _, free⟩ := sound.parking.none_of_first first unparked
          simp [Scene.count, held, SceneStage.held, SceneOp.callback?, free]
          omega
  | enqueueUnwinds =>
      simp [Scene.count, held, SceneStage.held, SceneOp.callback?, List.count_cons]
      omega
  | cancelNobody nobody => simp [Scene.count, held, SceneStage.held, SceneOp.callback?, nobody]
  | cancelTakes waits =>
      simp [Scene.count, held, SceneStage.held, SceneOp.callback?, waits]
      omega
  | completeNobody nobody => simp [Scene.count, held, SceneStage.held, SceneOp.callback?, nobody]
  | completeTakes waits =>
      simp [Scene.count, held, SceneStage.held, SceneOp.callback?, waits]
      omega
  | completeUnwinds =>
      simp [Scene.count, held, SceneStage.held, List.count_cons]
      omega
  | tells =>
      simp [Scene.count, held, SceneStage.held, tell, List.count_cons]
      omega
  | tellUnwinds =>
      simp [Scene.count, held, SceneStage.held, tell, List.count_cons]
      omega
  | _ => rfl

/-- Only an `enqueue` brings a callback, that with its own number. -/
theorem Move.count {label : SceneStep σ} (move : Move s label t) (sound : s.Sound)
    (callback : Nat) :
    t.count callback = s.count callback +
      if label.op? s.ops.length = some (.enqueue callback) then 1 else 0 := by
  cases move with
  | @begin _ op starts =>
      rw [starts]
      simp only [Scene.count, held, Scene.begin, List.flatMap_append, List.count_append,
        List.flatMap_cons, List.flatMap_nil, List.append_nil, SceneStage.held]
      cases op <;> simp [SceneOp.callback?, List.count_cons]
      omega
  | @act _ number op stage next after starts there acts =>
      rw [starts, if_neg nofun]
      have moved := acts.count sound (sound.fits there) callback
      have put := count_held_put next (acts.ops_eq ▸ there) callback
      show (after.heard.map (·.1)).count callback + (after.put number op next).held.count callback +
        after.call.parked.toList.count callback + after.lost.count callback = _
      unfold Scene.count at moved ⊢
      omega
  | plugins => rfl

theorem Acts.left_lt (acts : Acts s number op stage next t) : next.left < stage.left := by
  cases acts with
  | refused asks _ =>
      cases op with
      | enqueue callback => exact Nat.lt_succ_of_lt (Nat.lt_succ_self 1)
      | execute => exact Nat.succ_pos 2
      | cancel => cases asks
      | complete raw => cases asks
  | _ => simp [SceneStage.left]

/-- No operation has to wait for another. -/
theorem Fits.advances (fits : s.Fits number op stage) :
    stage.left = 0 ∨ ∃ next t, s.advance? number op stage = some (next, t) := by
  cases fits with
  | begun _ _ _ =>
      right
      cases op with
      | enqueue callback => exact ⟨_, _, rfl⟩
      | execute => exact ⟨_, _, rfl⟩
      | cancel =>
          dsimp only [advance?]
          rcases s.call.stop with ⟨_ | callback, call⟩ <;> exact ⟨_, _, rfl⟩
      | complete raw =>
          dsimp only [advance?]
          rcases s.call.unpark with ⟨_ | callback, call⟩ <;> exact ⟨_, _, rfl⟩
  | enqueueClaimed _ _ =>
      right
      dsimp only [advance?]
      rcases s.call.settle number s.plugins with ⟨⟨_ | outcome, call⟩, plugins⟩ <;>
        exact ⟨_, _, rfl⟩
  | executeClaimed _ => exact Or.inr ⟨_, _, rfl⟩
  | executeChecked _ => exact Or.inr ⟨_, _, rfl⟩
  | completeHolding _ _ => exact Or.inr ⟨_, _, rfl⟩
  | enqueueTelling _ => exact Or.inr ⟨_, _, rfl⟩
  | cancelTelling _ _ => exact Or.inr ⟨_, _, rfl⟩
  | completeTelling _ _ => exact Or.inr ⟨_, _, rfl⟩
  | _ => exact Or.inl rfl

/-- An operation that has not ended can go on at once, and gets nearer to its end with it. -/
theorem Sound.moves_on (sound : s.Sound) (there : s.ops[number]? = some (op, stage)) :
    stage.left = 0 ∨ ∃ next t, s.step? (.advance number) = some t ∧
      t.ops[number]? = some (op, next) ∧ next.left < stage.left := by
  refine (sound.fits there).advances.imp_right ?_
  rintro ⟨next, t, taken⟩
  have acts := acts_of_advance? taken
  refine ⟨next, t.put number op next, ?_, getElem?_put_same t op next ?_, acts.left_lt⟩
  · simp [step?, there, taken]
  · rw [acts.ops_eq]
    exact (List.getElem?_eq_some_iff.mp there).1

end Steps

/-! ### Runs -/

section Runs

variable {plugins : σ} {call : ScriptedCall σ Nat} {history : List (Scene σ × SceneStep σ)}
  {s : Scene σ}

theorem sound_of_run (run : Run step? (start plugins call) history s) : s.Sound := by
  refine run.keeps (fun taken sound => (move_of_step? taken).sound sound) ?_
  constructor
  case fits => exact nofun
  case executed => rfl
  case parking => exact .nobody rfl rfl rfl
  case askers => exact nofun
  case takers => exact nofun
  case told => exact nofun
  case lost => exact nofun

end Runs

/-! ### What callers can rely on -/

/-- An operation reports an outcome: its callback has heard it or is about to hear it, or the
operation has returned it. -/
inductive Reports (s : Scene σ) (number : Nat) (outcome : Outcome) : Prop where
  | heard (mem : (number, outcome) ∈ s.heard)
  | telling {teller : Nat} {op : SceneOp}
      (there : s.ops[teller]? = some (op, .telling number outcome))
  | returned {op : SceneOp} (there : s.ops[number]? = some (op, .returned (.outcome outcome)))

/-- Every operation that was started has returned. -/
def Quiet (s : Scene σ) : Prop :=
  ∀ op stage, (op, stage) ∈ s.ops → ∃ result, stage = .returned result

section Rely

variable {s : Scene σ} {number : Nat} {op : SceneOp} {stage : SceneStage}

/-- An operation that has asked for the right to run, but not as the first, reports the refusal. -/
theorem Sound.refused (sound : s.Sound) (asked : number ∈ s.asked)
    (lost : s.winner? ≠ some number) : s.Reports number (.error .alreadyExecuted) := by
  obtain ⟨op, stage, there, asks⟩ := sound.askers number asked
  cases sound.fits there with
  | begun _ fresh _ => exact absurd asked fresh
  | enqueueClaimed first _ => exact absurd first lost
  | enqueueTelling right =>
      obtain rfl := right.refused.mpr lost
      exact .telling there
  | enqueueReturned _ told => exact .heard (told lost)
  | enqueuePanicked _ told => exact .heard (told lost)
  | executeClaimed first => exact absurd first lost
  | executeChecked first => exact absurd first lost
  | executeReturned right =>
      obtain rfl := right.refused.mpr lost
      exact .returned there
  | executePanicked first => exact absurd first lost
  | _ => cases asks

/-- An operation asks for the right to run with its first step, if it is one that does. -/
theorem Sound.asked_iff (sound : s.Sound) (there : s.ops[number]? = some (op, stage)) :
    number ∈ s.asked ↔ op.asks ∧ stage ≠ .begun := by
  have not_asked : ¬ op.asks → number ∉ s.asked := by
    intro silent asked
    obtain ⟨op', stage', same, asks⟩ := sound.askers number asked
    cases there.symm.trans same
    exact silent asks
  cases sound.fits there with
  | begun _ fresh _ => exact iff_of_false fresh fun asks => asks.2 rfl
  | enqueueClaimed first _ => exact iff_of_true (mem_asked_of_winner? first) ⟨rfl, nofun⟩
  | enqueueTelling right => exact iff_of_true right.asked ⟨rfl, nofun⟩
  | enqueueReturned asked _ => exact iff_of_true asked ⟨rfl, nofun⟩
  | enqueuePanicked asked _ => exact iff_of_true asked ⟨rfl, nofun⟩
  | executeClaimed first => exact iff_of_true (mem_asked_of_winner? first) ⟨rfl, nofun⟩
  | executeChecked first => exact iff_of_true (mem_asked_of_winner? first) ⟨rfl, nofun⟩
  | executeReturned right => exact iff_of_true right.asked ⟨rfl, nofun⟩
  | executePanicked first => exact iff_of_true (mem_asked_of_winner? first) ⟨rfl, nofun⟩
  | _ => exact iff_of_false (not_asked Bool.false_ne_true) fun asks => nomatch asks.1

theorem Parking.free_of_canceled (parking : s.Parking) (canceled : s.call.canceled = true) :
    s.call.parked = none := by
  cases parking with
  | nobody _ _ free => exact free
  | waits waiting _ =>
      rw [waiting.active] at canceled
      cases canceled
  | ended _ _ _ free => exact free

/-- Once a cancellation is past its section under the lock, nothing waits in the call. -/
theorem Sound.stopped (sound : s.Sound) (there : s.ops[number]? = some (.cancel, stage))
    (past : stage ≠ .begun) : s.call.canceled = true ∧ s.call.parked = none := by
  have stopped : s.call.canceled = true := by
    cases sound.fits there with
    | begun _ _ _ => exact absurd rfl past
    | cancelTelling _ stopped => exact stopped
    | cancelReturned stopped => exact stopped
    | cancelPanicked stopped => exact stopped
  exact ⟨stopped, sound.parking.free_of_canceled stopped⟩

theorem Sound.taken_once (sound : s.Sound) {callback : Nat} (parked : callback ∈ s.parked) :
    (s.call.parked = some callback ∧ s.taken = []) ∨
      (s.call.parked = none ∧ ∃ number, s.taken = [(number, callback)]) := by
  cases sound.parking with
  | nobody nothing _ _ =>
      rw [nothing] at parked
      cases parked
  | waits waiting there =>
      rw [waiting.parked, List.mem_singleton] at parked
      subst parked
      exact Or.inl ⟨there, waiting.taken⟩
  | @ended _ number _ one taken free =>
      rw [one, List.mem_singleton] at parked
      subst parked
      exact Or.inr ⟨free, number, taken⟩

end Rely

end Scene

end RemoteCall
