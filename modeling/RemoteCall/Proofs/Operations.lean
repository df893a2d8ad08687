import RemoteCall.Engine.Population
import RemoteCall.Proofs.DispatchOnce

/-!
What becomes of calls by the operations on them.

`MadeCall.after?` says what becomes of a made call by each operation. Plug-ins have no say in it
(`MadeCall.operate_after`), and it never changes what the call was made with
(`MadeCall.make_of_after?`). The operations of an engine do the same to its calls:
`Engine.calls_executeCall`, `calls_enqueueCall`, `calls_cancelCall`, `calls_completeCall` and
`run_cloneCall`.
-/

namespace RemoteCall

variable {σ κ : Type}

/-- What a call was made with. -/
inductive Make (σ : Type) where
  | scripted (request : Request) (converter : ResponseConverter σ) (script : Script)
  | wired (request : Request) (converter : ResponseConverter σ) (transport : Request → Connection)
  | lossy (request : Request)

namespace MadeCall

def make : MadeCall σ κ → Make σ
  | .scripted _ c => .scripted c.request c.converter c.script
  | .wired c => .wired c.request c.converter c.transport
  | .lossy request => .lossy request

def executed : MadeCall σ κ → Bool
  | .scripted _ c => c.executed
  | .wired c => c.executed
  | .lossy _ => false

def canceled : MadeCall σ κ → Bool
  | .scripted _ c => c.canceled
  | .wired c => c.canceled
  | .lossy _ => false

/-- The callback that waits on a call. -/
def parked? : MadeCall σ κ → Option (Callback (Listener κ))
  | .scripted _ c => c.parked
  | .wired _ | .lossy _ => none

/-- A call was made like another, and nothing has happened to it. -/
structure CopyOf (copy c : MadeCall σ κ) : Prop where
  make : copy.make = c.make
  executed : copy.executed = false
  canceled : copy.canceled = false
  parked : copy.parked? = none

/-- What becomes of a call by an operation; none if such a call does not have it. -/
def after? : MadeCall σ κ → CallOp (Callback (Listener κ)) → Option (MadeCall σ κ)
  | .scripted maker c, .execute _ => some (.scripted maker c.claim.2)
  | .scripted maker c, .enqueue callback =>
    if c.executed || c.canceled || c.script != .hang then some (.scripted maker c.claim.2)
    else some (.scripted maker { c.claim.2 with parked := some callback })
  | .scripted maker c, .cancel => some (.scripted maker c.stop.2)
  | .scripted maker c, .complete _ => some (.scripted maker c.unpark.2)
  | .wired c, .execute context =>
    if context = .currentThread then some (.wired c) else some (.wired c.claim.2)
  | .wired c, .enqueue _ => some (.wired c.claim.2)
  | .wired c, .cancel => some (.wired c.stop)
  | .wired _, .complete _ => none
  | .lossy _, .complete _ => none
  | .lossy request, _ => some (.lossy request)

end MadeCall

/-! ### What becomes of a call -/

namespace ScriptedCall

variable {γ : Type}

theorem run_execute (c : ScriptedCall σ γ) (p : σ) : ((c.execute).run p).1.2 = c.claim.2 := by
  obtain ⟨request, converter, script, executed, canceled, parked⟩ := c
  cases executed with
  | true => rfl
  | false =>
      cases canceled with
      | true => rfl
      | false => cases script <;> rfl

theorem run_enqueue (c : ScriptedCall σ γ) (callback : γ) (p : σ) :
    ((c.enqueue callback).run p).1.2 =
      if c.executed || c.canceled || c.script != .hang then c.claim.2
      else { c.claim.2 with parked := some callback } := by
  obtain ⟨request, converter, script, executed, canceled, parked⟩ := c
  cases executed with
  | true => rfl
  | false =>
      cases canceled with
      | true => rfl
      | false => cases script <;> rfl

theorem run_complete (c : ScriptedCall σ γ) (raw : RawResponse) (p : σ) :
    ((c.complete raw).run p).1.2 = c.unpark.2 := by
  obtain ⟨request, converter, script, executed, canceled, parked⟩ := c
  cases parked with
  | none => rfl
  | some callback => rfl

end ScriptedCall

/-- A run on the spot claims the call where it may, or has nothing happen if it would never end. -/
theorem TransportCall.run_execute {τ : Type} (c : TransportCall σ τ) (context : Context)
    (answer : Option Reply) (p : σ) :
    ((c.execute context answer).run p).1.2 =
        (if context = .currentThread then c else c.claim.2) ∨
      ((c.execute context answer).run p).1 = (none, c) := by
  obtain ⟨request, converter, transport, executed, canceled⟩ := c
  cases context with
  | currentThread => exact Or.inl rfl
  | plain | multiThread =>
      cases executed with
      | true => exact Or.inl rfl
      | false =>
          cases canceled with
          | true => exact Or.inl rfl
          | false =>
              rcases answer with _ | error | raw
              · exact Or.inr rfl
              · exact Or.inl rfl
              · exact Or.inl rfl

namespace MadeCall

variable {c c' : MadeCall σ κ} {op : CallOp (Callback (Listener κ))}

theorem copyOf_copyMade (c : MadeCall σ κ) : (Engine.copyMade c).CopyOf c := by
  cases c with
  | scripted maker c => exact ⟨rfl, rfl, rfl, rfl⟩
  | wired c => exact ⟨rfl, rfl, rfl, rfl⟩
  | lossy request => exact ⟨rfl, rfl, rfl, rfl⟩

/-- What becomes of a call does not depend on the plug-ins. -/
theorem operate_after (c : MadeCall σ κ) (op : CallOp (Callback (Listener κ))) (p : σ) :
    ((c.operate op).run p).1.map (·.2) = c.after? op := by
  cases c with
  | scripted maker c =>
      cases op with
      | execute context => exact congrArg (some ∘ scripted maker) (c.run_execute p)
      | enqueue callback =>
          refine (congrArg (some ∘ scripted maker) (c.run_enqueue callback p)).trans ?_
          exact apply_ite (some ∘ scripted maker) _ _ _
      | cancel => rfl
      | complete raw => exact congrArg (some ∘ scripted maker) (c.run_complete raw p)
  | wired c =>
      obtain ⟨request, converter, transport, executed, canceled⟩ := c
      cases op with
      | execute context => cases context <;> cases executed <;> rfl
      | enqueue callback => cases executed <;> rfl
      | cancel => rfl
      | complete raw => rfl
  | lossy request => cases op <;> rfl

/-- An operation does not change what a call was made with. -/
theorem make_of_after? (after : c.after? op = some c') : c'.make = c.make := by
  cases c with
  | scripted maker c =>
      cases op with
      | enqueue callback =>
          dsimp only [after?] at after
          split at after
          · cases after
            rfl
          · cases after
            rfl
      | _ =>
          cases after
          rfl
  | wired c =>
      cases op with
      | execute context =>
          dsimp only [after?] at after
          split at after
          · cases after
            rfl
          · cases after
            rfl
      | complete raw => cases after
      | _ =>
          cases after
          rfl
  | lossy request =>
      cases op with
      | complete raw => cases after
      | _ =>
          cases after
          rfl

end MadeCall

/-! ### Wrappers -/

namespace CallRef

/-- The wrappers of a call around another made call. -/
def around : CallRef → Nat → CallRef
  | made _, index => made index
  | dispatching executor delegate, index => dispatching executor (delegate.around index)

theorem innermost_around (call : CallRef) (index : Nat) :
    (call.around index).innermost = index := by
  induction call with
  | made _ => rfl
  | dispatching _ _ ih => exact ih

theorem executors_around (call : CallRef) (index : Nat) :
    (call.around index).executors = call.executors := by
  induction call with
  | made _ => rfl
  | dispatching executor _ ih => exact congrArg (· ++ [executor]) ih

end CallRef

/-! ### The calls of an engine -/

namespace Engine

variable {e : Engine σ κ} {call : CallRef} {c c' : MadeCall σ κ}

theorem run_get_bind {α : Type} (f : Engine σ κ → EngineM σ κ α) (e : Engine σ κ) :
    (get >>= f).run e = (f e).run e := rfl

theorem run_cloneCall (there : e.calls[call.innermost]? = some c) :
    (cloneCall call).run e =
      (call.around e.calls.length, { e with calls := e.calls ++ [copyMade c] }) := by
  induction call with
  | made index =>
      have found : e.calls[index]? = some c := there
      rw [cloneCall, run_get_bind]
      simp only [found]
      rfl
  | dispatching executor delegate ih =>
      rw [cloneCall, StateT.run_bind, ih there]
      rfl

/-- To put a call where it is changes nothing. -/
theorem set_of_there {index : Nat} (there : e.calls[index]? = some c) :
    e.calls.set index c = e.calls := by
  obtain ⟨bound, rfl⟩ := List.getElem?_eq_some_iff.mp there
  exact List.set_getElem_self bound

theorem calls_cancelCall (there : e.calls[call.innermost]? = some c)
    (after : c.after? .cancel = some c') :
    ((cancelCall call).run e).2.calls = e.calls.set call.innermost c' := by
  unfold cancelCall
  rw [run_get_bind]
  simp only [there]
  cases c with
  | scripted maker c =>
      cases after
      rfl
  | wired c =>
      cases after
      rfl
  | lossy request =>
      cases after
      exact (set_of_there there).symm

theorem calls_spawn (call : Nat) (delivery : Delivery (Callback (Listener κ)))
    (e : Engine σ κ) : ((spawn (.carry call delivery)).run e).2.calls = e.calls := by
  unfold spawn
  rw [run_get_bind]
  split
  · rfl
  · rfl

theorem calls_enqueueCall {listener : Listener κ} (there : e.calls[call.innermost]? = some c)
    (after : c.after? (CallOp.through call (.enqueue listener)) = some c') :
    ((enqueueCall call listener).run e).2.calls = e.calls.set call.innermost c' := by
  unfold enqueueCall enqueueMade
  rw [run_get_bind]
  simp only [there]
  cases c with
  | scripted maker c =>
      show e.calls.set _ (.scripted maker (c.enqueue _ e.plugins).1.2) = _
      have enqueued := c.run_enqueue (call.relayed (.listener listener)) e.plugins
      dsimp only [CallOp.through, MadeCall.after?] at after
      rw [← apply_ite some, ← apply_ite (MadeCall.scripted maker), ← enqueued] at after
      exact congrArg (e.calls.set _) (Option.some.inj after)
  | wired c =>
      cases after
      obtain ⟨request, converter, transport, executed, canceled⟩ := c
      cases executed with
      | true => rfl
      | false => exact calls_spawn _ _ _
  | lossy request =>
      cases after
      exact (set_of_there there).symm

/-- The engine runs a wired call on the spot only if it has an answer, and else leaves it alone. -/
theorem calls_executeCall (there : e.calls[call.innermost]? = some c)
    (after : c.after? (.execute e.context) = some c') :
    ((executeCall call).run e).2.calls = e.calls.set call.innermost c' ∨
      ((executeCall call).run e).1 = none ∧ ((executeCall call).run e).2.calls = e.calls := by
  unfold executeCall
  rw [run_get_bind]
  simp only [there]
  cases c with
  | scripted maker c =>
      cases after
      left
      show e.calls.set _ (.scripted maker (c.execute e.plugins).1.2) = _
      exact congrArg (fun c => e.calls.set _ (.scripted maker c)) (c.run_execute e.plugins)
  | wired c =>
      show e.calls.set _ (.wired (c.execute e.context (e.answerTo? c) e.plugins).1.2) = _ ∨
        (c.execute e.context (e.answerTo? c) e.plugins).1.1 = none ∧
          e.calls.set _ (.wired (c.execute e.context (e.answerTo? c) e.plugins).1.2) = _
      dsimp only [MadeCall.after?] at after
      rw [← apply_ite some, ← apply_ite MadeCall.wired] at after
      cases after
      rcases c.run_execute e.context (e.answerTo? c) e.plugins with ended | waits
      · exact Or.inl (congrArg (fun c => e.calls.set _ (.wired c)) ended)
      · refine Or.inr ⟨congrArg Prod.fst waits, ?_⟩
        refine (congrArg (fun r => e.calls.set _ (.wired r.2)) waits).trans ?_
        exact set_of_there there
  | lossy request =>
      cases after
      exact Or.inl (set_of_there there).symm

theorem calls_completeCall {index : Nat} {raw : RawResponse} (there : e.calls[index]? = some c)
    (after : c.after? (.complete raw) = some c') :
    ((completeCall index raw).run e).2.calls = e.calls.set index c' := by
  unfold completeCall
  rw [run_get_bind]
  simp only [there]
  cases c with
  | scripted maker c =>
      cases after
      obtain ⟨request, converter, script, executed, canceled, parked⟩ := c
      cases parked with
      | none => rfl
      | some callback => rfl
  | wired c => cases after
  | lossy request => cases after

end Engine

end RemoteCall
