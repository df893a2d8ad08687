import RemoteCall.Proofs.DispatchOnce

/-!
What calls with at most one wrapper hand over.

A made call tells its listeners on the spot, so no executor gets a job (`Orderly.tells_on_spot`).
One wrapper hands over one job for each operation that completes (`Orderly.hops_once`), be it run,
dropped or still waiting. What carries this is that a completion is never without effect
(`Exchange.Prompt`): a listener hears of it, or an executor is handed a job.
-/

namespace RemoteCall.Exchange

/-- An operation has completed exactly if an executor was handed a job or the listener has heard. -/
def Prompt (x : Exchange) : Prop :=
  ∀ number, (x.trace number).completed = [] ↔
    (x.trace number).handed = [] ∧ (x.trace number).heard = []

variable {x : Exchange} {number : Nat} {op : Enqueued}

/-- A callback that is called tells its listener or hands a parcel over. -/
theorem effect_of_react {call inner : CallRef} {callback : Callback Nat}
    (leads : callback.Leads call number inner) (within : Option Executor) (outcome : Outcome) :
    ¬ (((x.react number within (callback.hear inner outcome)).trace number).handed = [] ∧
      ((x.react number within (callback.hear inner outcome)).trace number).heard = []) := by
  intro nothing
  cases callback with
  | listener other =>
      obtain ⟨rfl, _⟩ := leads
      have heard : entries ((other, ⟨inner, outcome, within⟩) :: x.heard) other = [] := nothing.2
      rw [entries_same] at heard
      exact List.append_ne_nil_of_right_ne_nil _ (List.cons_ne_nil _ _) heard
  | relay executor delegate next =>
      have handed : entries ((number, executor) :: x.handed) number = [] := nothing.1
      rw [entries_same] at handed
      exact List.append_ne_nil_of_right_ne_nil _ (List.cons_ne_nil _ _) handed

theorem completed_react (x : Exchange) (number : Nat) (within : Option Executor)
    (reaction : Reaction Nat) (other : Nat) :
    ((x.react number within reaction).trace other).completed = (x.trace other).completed := by
  cases reaction with
  | tell listener call outcome => rfl
  | submit parcel => rfl

/-- One operation has completed and something has come of it; the others do not notice. -/
theorem Prompt.replace (prompt : Prompt x) {x' : Exchange}
    (completed : (x'.trace number).completed ≠ [])
    (effect : ¬ ((x'.trace number).handed = [] ∧ (x'.trace number).heard = []))
    (others : ∀ other, other ≠ number → x'.trace other = x.trace other) : Prompt x' := by
  intro other
  by_cases same : other = number
  · subst same
    constructor
    · intro nothing
      exact absurd nothing completed
    · intro nothing
      exact absurd nothing effect
  · rw [others other same]
    exact prompt other

theorem Prompt.complete (prompt : Prompt x) (orderly : Orderly x) {call : CallRef}
    {callback : Callback Nat} (there : x.ops[number]? = some ⟨call, .waiting callback⟩)
    (outcome : Outcome) :
    Prompt (({ x with completed := (number, outcome) :: x.completed }).react number none
      (callback.hear (.made call.innermost) outcome)) := by
  cases orderly.fits number _ there with
  | waiting leads nothing =>
      apply prompt.replace
      · rw [completed_react]
        change entries ((number, outcome) :: x.completed) number ≠ []
        rw [entries_same]
        exact List.append_ne_nil_of_right_ne_nil _ (List.cons_ne_nil _ _)
      · exact effect_of_react leads none outcome
      · intro other different
        rw [trace_react_other leads different]
        simp [trace, different]

theorem Prompt.run (prompt : Prompt x) (orderly : Orderly x) {call : CallRef}
    {parcel : Parcel Nat} (there : x.ops[number]? = some ⟨call, .handed parcel⟩) (canceled : Bool) :
    Prompt (({ x with opened := (number, ⟨parcel.executor, canceled⟩) :: x.opened }).react number
      (some parcel.executor) (parcel.unpack canceled)) := by
  cases orderly.fits number _ there with
  | handed leads reaches handed silent =>
      obtain ⟨first, completed, _⟩ := reaches.outcome
      apply prompt.replace
      · rw [completed_react]
        change (x.trace number).completed ≠ []
        rw [completed]
        exact List.cons_ne_nil _ _
      · exact effect_of_react leads _ _
      · intro other different
        rw [Parcel.unpack, trace_react_other leads different]
        simp [trace, different]

theorem Prompt.step (prompt : Prompt x) (orderly : Orderly x) {x' : Exchange}
    {label : ExchangeStep} (taken : x.step? label = some x') : Prompt x' := by
  cases move_of_step? taken with
  | enqueue call => exact prompt
  | mark call canceled => exact prompt
  | complete outcome there => exact prompt.complete orderly there outcome
  | run there => exact prompt.run orderly there _
  | lose there held => exact prompt

theorem executors_wrapper_ne_nil (parcel : Parcel Nat) : parcel.wrapper.executors ≠ [] :=
  List.append_ne_nil_of_right_ne_nil _ (List.cons_ne_nil _ _)

theorem eq_singleton_of_prefix {executors : List Executor} {executor : Executor}
    (first : executors <+: [executor]) (nonempty : executors ≠ []) : executors = [executor] := by
  rcases List.prefix_cons_iff.mp first with rfl | ⟨rest, rfl, nothing⟩
  · exact absurd rfl nonempty
  · rw [List.prefix_nil.mp nothing]

/-- An operation stays one on the same call. -/
theorem op_of_step? {x' : Exchange} {label : ExchangeStep} (taken : x.step? label = some x')
    (there : x.ops[number]? = some op) :
    ∃ op', x'.ops[number]? = some op' ∧ op'.call = op.call := by
  have moved (other : Nat) (place : Place) :
      ∃ op', (x.ops.modify other fun op => { op with place })[number]? = some op' ∧
        op'.call = op.call := by
    rw [List.getElem?_modify, there]
    by_cases same : other = number
    · exact ⟨{ op with place }, by simp [same], rfl⟩
    · exact ⟨op, by simp [same], rfl⟩
  cases move_of_step? taken with
  | enqueue call =>
      have bound := (List.getElem?_eq_some_iff.mp there).1
      exact ⟨op, (List.getElem?_append_left bound).trans there, rfl⟩
  | mark call canceled => exact ⟨op, there, rfl⟩
  | complete outcome waits =>
      rw [ops_react]
      exact moved _ _
  | run handed =>
      rw [ops_react]
      exact moved _ _
  | lose held active => exact moved _ _

/-- No executor was handed a job by the operation. Its listener has heard, when and where the made
call has completed, what that has said. -/
structure TellsOnSpot (x : Exchange) (number : Nat) (call : CallRef) : Prop where
  handed : entries x.handed number = []
  heard : entries x.heard number =
    (entries x.completed number).map fun outcome => ⟨call, outcome, none⟩

/-- The operation completes once at most, and then the executor is handed one job by it, and nobody
else is. What the listener hears it hears inside this job. -/
structure HopsOnce (x : Exchange) (number : Nat) (executor : Executor) : Prop where
  once : (entries x.completed number).length ≤ 1
  handed : entries x.handed number = (entries x.completed number).map fun _ => executor
  within : ∀ hearing ∈ entries x.heard number, hearing.within = some executor

/-- A call without wrappers hands nothing over. -/
theorem Orderly.tells_on_spot (orderly : Orderly x) (prompt : Prompt x)
    (there : x.ops[number]? = some op) {index : Nat} (bare : op.call = .made index) :
    x.TellsOnSpot number (.made index) := by
  suffices (x.trace number).handed = [] ∧
      (x.trace number).heard = (x.trace number).completed.map fun outcome =>
        ⟨.made index, outcome, none⟩ from ⟨this.1, this.2⟩
  cases orderly.fits number op there with
  | waiting leads nothing =>
      rw [nothing]
      exact ⟨rfl, rfl⟩
  | @handed call parcel leads reaches handed silent =>
      obtain rfl : call = .made index := bare
      have wrapped := leads.executors_prefix
      rw [CallRef.executors, List.prefix_nil] at wrapped
      exact absurd wrapped (executors_wrapper_ne_nil parcel)
  | @told call hearing reaches handed heard ofCall within =>
      obtain rfl : call = .made index := bare
      obtain ⟨first, completed, outcome⟩ := reaches.outcome
      have unopened : (x.trace number).opened = [] := List.map_eq_nil_iff.mp reaches.opened
      rw [unopened, List.any_nil, deliverable_false] at outcome
      refine ⟨handed, ?_⟩
      rw [heard, completed, List.map_singleton, ← outcome, ← ofCall]
      rw [show none = hearing.within from within.symm]
  | @lost call completed handed silent =>
      obtain rfl : call = .made index := bare
      have nothing := List.prefix_nil.mp handed
      rw [(prompt number).mpr ⟨nothing, silent⟩, silent]
      exact ⟨nothing, rfl⟩

/-- A wrapper hands one job over for each operation that completes. -/
theorem Orderly.handed_of_completed (orderly : Orderly x) (prompt : Prompt x)
    (there : x.ops[number]? = some op) {executor : Executor} {index : Nat}
    (wrapped : op.call = .dispatching executor (.made index)) :
    (x.trace number).completed.length ≤ 1 ∧
      (x.trace number).handed = (x.trace number).completed.map fun _ => executor := by
  cases orderly.fits number op there with
  | waiting leads nothing =>
      rw [nothing]
      exact ⟨Nat.zero_le 1, rfl⟩
  | @handed call parcel leads reaches handed silent =>
      obtain rfl : call = .dispatching executor (.made index) := wrapped
      obtain ⟨first, completed, _⟩ := reaches.outcome
      rw [handed, completed, eq_singleton_of_prefix leads.executors_prefix
        (executors_wrapper_ne_nil parcel)]
      exact ⟨Nat.le_refl 1, rfl⟩
  | @told call hearing reaches handed heard ofCall within =>
      obtain rfl : call = .dispatching executor (.made index) := wrapped
      obtain ⟨first, completed, _⟩ := reaches.outcome
      rw [handed, completed]
      exact ⟨Nat.le_refl 1, rfl⟩
  | @lost call completed handed silent =>
      obtain rfl : call = .dispatching executor (.made index) := wrapped
      refine ⟨completed, ?_⟩
      cases outcomes : (x.trace number).completed with
      | nil => exact ((prompt number).mp outcomes).1
      | cons first rest =>
          rw [outcomes, List.length_cons] at completed
          obtain rfl : rest = [] := List.eq_nil_of_length_eq_zero (by omega)
          apply eq_singleton_of_prefix handed
          intro nothing
          rw [(prompt number).mpr ⟨nothing, silent⟩] at outcomes
          cases outcomes

theorem Orderly.hops_once (orderly : Orderly x) (prompt : Prompt x)
    (there : x.ops[number]? = some op) {executor : Executor} {index : Nat}
    (wrapped : op.call = .dispatching executor (.made index)) : x.HopsOnce number executor := by
  obtain ⟨once, handed⟩ := orderly.handed_of_completed prompt there wrapped
  constructor
  · exact once
  · exact handed
  · intro hearing mem
    obtain ⟨call, told, _, _, _, within⟩ := orderly.told_of_heard (mem_entries.mp mem)
    cases there.symm.trans told
    rw [within, show call = _ from wrapped]
    rfl

end RemoteCall.Exchange
