import RemoteCall.Call.Exchange
import RemoteCall.Proofs.Run

/-!
Wrappers deliver once, on their executors, and a cancellation that is seen wins.

Each operation of an exchange leaves a `Trace`: the outcome that its callback was called with, the
executors that were handed its parcels, the parcels that were opened, and what its listener has
heard. `Fits` says which traces go with which place of the callback. It holds of every operation
after every run (`orderly_of_run`), whatever the made calls and the executors do. `Tied` says the
same of cancellations: a job that is run sees what the innermost call was marked with last
(`tied_of_run`). `dispatches_once` reads off both what callers can rely on.
-/

namespace RemoteCall

/-! ### Wrappers and relays -/

/-- The executors of the wrappers around the made call, the innermost first. -/
def CallRef.executors : CallRef → List Executor
  | made _ => []
  | dispatching executor delegate => delegate.executors ++ [executor]

/-- The executor of the outermost wrapper. -/
def CallRef.executor? : CallRef → Option Executor
  | made _ => none
  | dispatching executor _ => some executor

namespace Callback

variable {γ : Type} {outer : CallRef} {g : γ}

/-- Called with outcomes of `inner`, the callback lets `g` hear them as outcomes of `outer`. -/
def Leads (outer : CallRef) (g : γ) : Callback γ → CallRef → Prop
  | listener other, inner => other = g ∧ inner = outer
  | relay executor delegate next, inner =>
    delegate = inner ∧ next.Leads outer g (.dispatching executor inner)

theorem leads_relayed {call : CallRef} {callback : Callback γ}
    (leads : callback.Leads outer g call) :
    (call.relayed callback).Leads outer g (.made call.innermost) := by
  induction call generalizing callback with
  | made index => exact leads
  | dispatching executor delegate ih => exact ih ⟨rfl, leads⟩

/-- The wrappers that are passed already are the inner ones. -/
theorem Leads.executors_prefix {callback : Callback γ} {inner : CallRef}
    (leads : callback.Leads outer g inner) : inner.executors <+: outer.executors := by
  induction callback generalizing inner with
  | listener other =>
      obtain ⟨_, rfl⟩ := leads
      exact List.prefix_refl _
  | relay executor delegate next ih =>
      obtain ⟨_, leads⟩ := leads
      exact (List.prefix_append _ _).trans (ih leads)

/-- Wrapping does not change which made call is the innermost. -/
theorem Leads.innermost {callback : Callback γ} {inner : CallRef}
    (leads : callback.Leads outer g inner) : inner.innermost = outer.innermost := by
  induction callback generalizing inner with
  | listener other => rw [leads.2]
  | relay executor delegate next ih =>
      have outside := ih leads.2
      exact outside

end Callback

theorem deliverable_deliverable (first second : Bool) (outcome : Outcome) :
    deliverable second (deliverable first outcome) = deliverable (first || second) outcome := by
  cases outcome with
  | error error => rfl
  | ok envelope => cases first <;> rfl

namespace Exchange

/-! ### Traces -/

/-- The entries of a log that belong to a number, the earliest first. -/
def entries {α : Type} (log : List (Nat × α)) (number : Nat) : List α :=
  ((log.filter (·.1 == number)).map (·.2)).reverse

@[simp] theorem entries_same {α : Type} (log : List (Nat × α)) (number : Nat) (entry : α) :
    entries ((number, entry) :: log) number = entries log number ++ [entry] := by
  simp [entries]

@[simp] theorem entries_other {α : Type} (log : List (Nat × α)) {number other : Nat} (entry : α)
    (different : other ≠ number) : entries ((number, entry) :: log) other = entries log other := by
  have skipped : (number == other) = false := beq_eq_false_iff_ne.mpr different.symm
  simp [entries, skipped]

theorem mem_entries {α : Type} {log : List (Nat × α)} {number : Nat} {entry : α} :
    entry ∈ entries log number ↔ (number, entry) ∈ log := by
  simp [entries]

/-- What an operation has left in the logs. -/
structure Trace where
  completed : List Outcome := []
  handed : List Executor := []
  opened : List Opening := []
  heard : List Hearing := []

def trace (x : Exchange) (number : Nat) : Trace where
  completed := entries x.completed number
  handed := entries x.handed number
  opened := entries x.opened number
  heard := entries x.heard number

/-- The jobs of the wrappers up to `inner` have run and have made this outcome of the first. -/
structure Trace.Reaches (t : Trace) (inner : CallRef) (outcome : Outcome) : Prop where
  opened : t.opened.map (·.executor) = inner.executors
  outcome : ∃ first, t.completed = [first] ∧
    outcome = deliverable (t.opened.any (·.canceled)) first

/-- Which trace goes with which place of the callback of an operation. -/
inductive Fits (number : Nat) (t : Trace) : Enqueued → Prop where
  | waiting {call : CallRef} {callback : Callback Nat}
      (leads : callback.Leads call number (.made call.innermost)) (nothing : t = {}) :
      Fits number t ⟨call, .waiting callback⟩
  | handed {call : CallRef} {parcel : Parcel Nat}
      (leads : parcel.callback.Leads call number parcel.wrapper)
      (reaches : t.Reaches parcel.delegate parcel.outcome)
      (handed : t.handed = parcel.wrapper.executors) (silent : t.heard = []) :
      Fits number t ⟨call, .handed parcel⟩
  | told {call : CallRef} (hearing : Hearing) (reaches : t.Reaches call hearing.outcome)
      (handed : t.handed = call.executors) (heard : t.heard = [hearing])
      (of_call : hearing.call = call) (within : hearing.within = call.executor?) :
      Fits number t ⟨call, .told⟩
  | lost {call : CallRef} (completed : t.completed.length ≤ 1)
      (handed : t.handed <+: call.executors) (silent : t.heard = []) : Fits number t ⟨call, .lost⟩

/-- Where a reaction leaves the callback. -/
def landing : Reaction Nat → Place
  | .tell .. => .told
  | .submit parcel => .handed parcel

/-! ### Steps -/

section Steps

variable {x : Exchange} {number : Nat}

/-- The steps, each with what it needs and what it leads to. -/
inductive Move (x : Exchange) : ExchangeStep → Exchange → Prop where
  | enqueue (call : CallRef) : Move x (.enqueue call) { x with
      ops := x.ops ++ [⟨call, .waiting (call.relayed (.listener x.ops.length))⟩] }
  | mark (call : CallRef) (canceled : Bool) : Move x (.mark call canceled) { x with
      canceled := fun index => if index = call.innermost then canceled else x.canceled index }
  | complete {number : Nat} {call : CallRef} {callback : Callback Nat} (outcome : Outcome)
      (there : x.ops[number]? = some ⟨call, .waiting callback⟩) :
      Move x (.complete number outcome)
        (({ x with completed := (number, outcome) :: x.completed }).react number none
          (callback.hear (.made call.innermost) outcome))
  | run {number : Nat} {call : CallRef} {parcel : Parcel Nat}
      (there : x.ops[number]? = some ⟨call, .handed parcel⟩) :
      Move x (.run number)
        (({ x with opened := (number, ⟨parcel.executor, x.isCanceled parcel.delegate⟩) ::
          x.opened }).react number (some parcel.executor)
            (parcel.unpack (x.isCanceled parcel.delegate)))
  | lose {number : Nat} {op : Enqueued} (there : x.ops[number]? = some op)
      (held : op.place ≠ .told) : Move x (.lose number) (x.put number .lost)

theorem move_of_step? {x' : Exchange} {label : ExchangeStep} (taken : x.step? label = some x') :
    x.Move label x' := by
  cases label with
  | enqueue call =>
      cases taken
      exact .enqueue call
  | mark call canceled =>
      cases taken
      exact .mark call canceled
  | complete number outcome =>
      dsimp only [step?] at taken
      split at taken
      · next call callback there =>
        cases taken
        exact .complete outcome there
      · cases taken
  | run number =>
      dsimp only [step?] at taken
      split at taken
      · next call parcel there =>
        cases taken
        exact .run there
      · cases taken
  | lose number =>
      dsimp only [step?] at taken
      split at taken
      · next call callback there =>
        cases taken
        exact .lose there nofun
      · next call parcel there =>
        cases taken
        exact .lose there nofun
      · cases taken

theorem ops_react (x : Exchange) (number : Nat) (within : Option Executor)
    (reaction : Reaction Nat) :
    (x.react number within reaction).ops =
      x.ops.modify number fun op => { op with place := landing reaction } := by
  cases reaction <;> rfl

/-- A callback that hears an outcome of `inner` tells its listener, if `inner` is all there is, or
hands the next parcel over. -/
theorem fits_react {call inner : CallRef} {callback : Callback Nat} {outcome : Outcome}
    (leads : callback.Leads call number inner) (reaches : (x.trace number).Reaches inner outcome)
    (handed : (x.trace number).handed = inner.executors) (silent : (x.trace number).heard = []) :
    Fits number ((x.react number inner.executor? (callback.hear inner outcome)).trace number)
      ⟨call, landing (callback.hear inner outcome)⟩ := by
  cases callback with
  | listener other =>
      obtain ⟨rfl, rfl⟩ := leads
      refine .told ⟨inner, outcome, inner.executor?⟩ ⟨reaches.opened, reaches.outcome⟩ handed ?_
        rfl rfl
      change entries ((other, ⟨inner, outcome, inner.executor?⟩) :: x.heard) other = _
      rw [entries_same, show entries x.heard other = [] from silent, List.nil_append]
  | relay executor delegate next =>
      obtain ⟨rfl, leads⟩ := leads
      refine .handed leads ⟨reaches.opened, reaches.outcome⟩ ?_ silent
      change entries ((number, executor) :: x.handed) number = _
      rw [entries_same, show entries x.handed number = delegate.executors from handed]
      rfl

/-- Other operations do not notice. -/
theorem trace_react_other {call inner : CallRef} {callback : Callback Nat} {other : Nat}
    (leads : callback.Leads call number inner) (different : other ≠ number)
    (within : Option Executor) (outcome : Outcome) :
    (x.react number within (callback.hear inner outcome)).trace other = x.trace other := by
  cases callback with
  | listener listener =>
      obtain ⟨rfl, _⟩ := leads
      simp [trace, react, put, Callback.hear, different]
  | relay executor delegate next => simp [trace, react, put, Callback.hear, different]

/-- Every operation has left the trace that goes with the place of its callback. -/
structure Orderly (x : Exchange) : Prop where
  fits : ∀ number op, x.ops[number]? = some op → Fits number (x.trace number) op
  fresh : ∀ number, x.ops.length ≤ number → x.trace number = {}

/-- One operation moves on and the others do not notice. -/
theorem Orderly.replace (orderly : Orderly x) {x' : Exchange} {op : Enqueued} {place : Place}
    (there : x.ops[number]? = some op)
    (ops_eq : x'.ops = x.ops.modify number fun op => { op with place })
    (others : ∀ other, other ≠ number → x'.trace other = x.trace other)
    (fits : Fits number (x'.trace number) ⟨op.call, place⟩) : Orderly x' := by
  obtain ⟨bound, _⟩ := List.getElem?_eq_some_iff.mp there
  constructor
  · intro other op' there'
    by_cases same : number = other
    · subst same
      rw [ops_eq, List.getElem?_modify_eq, there] at there'
      cases there'
      exact fits
    · rw [ops_eq, List.getElem?_modify_ne _ _ same] at there'
      rw [others other (Ne.symm same)]
      exact orderly.fits other op' there'
  · intro other outside
    rw [ops_eq, List.length_modify] at outside
    rw [others other (by omega)]
    exact orderly.fresh other outside

theorem Orderly.enqueue (orderly : Orderly x) (call : CallRef) :
    Orderly { x with
      ops := x.ops ++ [⟨call, .waiting (call.relayed (.listener x.ops.length))⟩] } := by
  constructor
  · intro number op there
    rcases Nat.lt_or_ge number x.ops.length with old | new
    · rw [List.getElem?_append_left old] at there
      exact orderly.fits number op there
    · rw [List.getElem?_append_right new, List.getElem?_singleton] at there
      split at there
      · cases there
        obtain rfl : number = x.ops.length := by omega
        exact .waiting (Callback.leads_relayed ⟨rfl, rfl⟩) (orderly.fresh _ new)
      · cases there
  · intro number outside
    rw [List.length_append] at outside
    exact orderly.fresh number (by omega)

theorem Orderly.complete (orderly : Orderly x) {call : CallRef} {callback : Callback Nat}
    (there : x.ops[number]? = some ⟨call, .waiting callback⟩) (outcome : Outcome) :
    Orderly (({ x with completed := (number, outcome) :: x.completed }).react number none
      (callback.hear (.made call.innermost) outcome)) := by
  cases orderly.fits number _ there with
  | waiting leads nothing =>
      have untouched := Trace.mk.inj nothing
      obtain ⟨completed, handed, opened, heard⟩ := untouched
      refine orderly.replace there (ops_react _ _ _ _) (fun other different => ?_)
        (fits_react leads ?_ handed heard)
      · rw [trace_react_other leads different]
        simp [trace, different]
      · refine ⟨?_, outcome, ?_, ?_⟩
        · change (entries x.opened number).map _ = []
          rw [opened]
          rfl
        · change entries ((number, outcome) :: x.completed) number = _
          rw [entries_same, completed]
          rfl
        · change outcome = deliverable ((entries x.opened number).any _) outcome
          rw [opened]
          exact (deliverable_false outcome).symm

theorem Orderly.run (orderly : Orderly x) {call : CallRef} {parcel : Parcel Nat}
    (there : x.ops[number]? = some ⟨call, .handed parcel⟩) (canceled : Bool) :
    Orderly (({ x with opened := (number, ⟨parcel.executor, canceled⟩) :: x.opened }).react number
      (some parcel.executor) (parcel.unpack canceled)) := by
  cases orderly.fits number _ there with
  | handed leads reaches handed silent =>
      obtain ⟨opened, first, completed, carried⟩ := reaches
      refine orderly.replace there (ops_react _ _ _ _) (fun other different => ?_)
        (fits_react leads ?_ handed silent)
      · rw [Parcel.unpack, trace_react_other leads different]
        simp [trace, different]
      · refine ⟨?_, first, completed, ?_⟩
        · change (entries ((number, _) :: x.opened) number).map _ = _
          rw [entries_same, List.map_append, show (entries x.opened number).map _ = _ from opened]
          rfl
        · change _ = deliverable ((entries ((number, _) :: x.opened) number).any _) _
          rw [entries_same, List.any_append, carried, deliverable_deliverable]
          simp [trace]

theorem Orderly.lose (orderly : Orderly x) {op : Enqueued} (there : x.ops[number]? = some op)
    (active : op.place ≠ .told) : Orderly (x.put number .lost) := by
  refine orderly.replace there rfl (fun _ _ => rfl) ?_
  change Fits number (x.trace number) _
  cases orderly.fits number op there with
  | waiting leads nothing =>
      rw [nothing]
      exact .lost (Nat.zero_le 1) List.nil_prefix rfl
  | handed leads reaches handed silent =>
      obtain ⟨first, completed, _⟩ := reaches.outcome
      exact .lost (by rw [completed]; exact Nat.le_refl 1) (handed ▸ leads.executors_prefix) silent
  | told => exact absurd rfl active
  | lost completed handed silent => exact .lost completed handed silent

theorem Orderly.step (orderly : Orderly x) {x' : Exchange} {label : ExchangeStep}
    (taken : x.step? label = some x') : Orderly x' := by
  cases move_of_step? taken with
  | enqueue call => exact orderly.enqueue call
  | mark call canceled => exact ⟨orderly.fits, orderly.fresh⟩
  | complete outcome there => exact orderly.complete there outcome
  | run there => exact orderly.run there _
  | lose there held => exact orderly.lose there held

end Steps

/-! ### Histories -/

/-- What a made call, or a wrapper around it, was marked with last. -/
def lastMark : List (Exchange × ExchangeStep) → Nat → Option Bool
  | [], _ => none
  | (_, .mark call canceled) :: earlier, index =>
    if index = call.innermost then some canceled else lastMark earlier index
  | _ :: earlier, index => lastMark earlier index

/-- The states in which the jobs of an operation were run, the earliest first. -/
def runs : List (Exchange × ExchangeStep) → Nat → List Exchange
  | [], _ => []
  | (s, .run other) :: earlier, number =>
    if other = number then runs earlier number ++ [s] else runs earlier number
  | _ :: earlier, number => runs earlier number

/-- What an exchange knows of cancellations is what the history tells. -/
structure Tied (canceled : Nat → Bool) (history : List (Exchange × ExchangeStep)) (x : Exchange) :
    Prop where
  marked : ∀ index, x.canceled index = (lastMark history index).getD (canceled index)
  seen : ∀ number op, x.ops[number]? = some op →
    (entries x.opened number).map (·.canceled) =
      (runs history number).map (·.canceled op.call.innermost)
  unrun : ∀ number, x.ops.length ≤ number → runs history number = []

section Histories

variable {canceled : Nat → Bool} {history : List (Exchange × ExchangeStep)} {x : Exchange}
  {number : Nat}

@[simp] theorem canceled_react (x : Exchange) (number : Nat) (within : Option Executor)
    (reaction : Reaction Nat) : (x.react number within reaction).canceled = x.canceled := by
  cases reaction <;> rfl

@[simp] theorem opened_react (x : Exchange) (number : Nat) (within : Option Executor)
    (reaction : Reaction Nat) : (x.react number within reaction).opened = x.opened := by
  cases reaction <;> rfl

/-- An operation stays on its call. -/
theorem call_of_modify {ops : List Enqueued} {place : Place} {other : Nat} {op : Enqueued}
    (there : (ops.modify number fun op => { op with place })[other]? = some op) :
    ∃ op', ops[other]? = some op' ∧ op'.call = op.call := by
  rw [List.getElem?_modify] at there
  obtain ⟨op', there', moved⟩ := Option.map_eq_some_iff.mp there
  refine ⟨op', there', ?_⟩
  rw [← moved]
  split <;> rfl

/-- A callback goes elsewhere and no job is run. -/
theorem Tied.move (tied : Tied canceled history x) {x' : Exchange} {label : ExchangeStep}
    {place : Place} (ops_eq : x'.ops = x.ops.modify number fun op => { op with place })
    (canceled_eq : x'.canceled = x.canceled) (opened_eq : x'.opened = x.opened)
    (unmarked : lastMark ((x, label) :: history) = lastMark history)
    (no_run : runs ((x, label) :: history) = runs history) :
    Tied canceled ((x, label) :: history) x' := by
  constructor
  · intro index
    rw [canceled_eq, unmarked]
    exact tied.marked index
  · intro other op there
    rw [ops_eq] at there
    obtain ⟨op', there', same⟩ := call_of_modify there
    rw [opened_eq, no_run, ← same]
    exact tied.seen other op' there'
  · intro other outside
    rw [ops_eq, List.length_modify] at outside
    rw [no_run]
    exact tied.unrun other outside

theorem Tied.enqueue (tied : Tied canceled history x) (orderly : Orderly x) (call : CallRef) :
    Tied canceled ((x, .enqueue call) :: history) { x with
      ops := x.ops ++ [⟨call, .waiting (call.relayed (.listener x.ops.length))⟩] } := by
  refine ⟨tied.marked, fun other op there => ?_, fun other outside => ?_⟩
  · rcases Nat.lt_or_ge other x.ops.length with old | new
    · rw [List.getElem?_append_left old] at there
      exact tied.seen other op there
    · change (x.trace other).opened.map _ = (runs history other).map _
      rw [orderly.fresh other new, tied.unrun other new]
      rfl
  · rw [List.length_append] at outside
    exact tied.unrun other (by omega)

theorem Tied.mark (tied : Tied canceled history x) (call : CallRef) (flag : Bool) :
    Tied canceled ((x, .mark call flag) :: history) { x with
      canceled := fun index => if index = call.innermost then flag else x.canceled index } := by
  refine ⟨fun index => ?_, tied.seen, tied.unrun⟩
  dsimp only [lastMark]
  split
  · rfl
  · exact tied.marked index

/-- The wrapper that opens its parcel looks whether its delegate is canceled, and so whether the
innermost call is. -/
theorem Tied.run (tied : Tied canceled history x) (orderly : Orderly x) {call : CallRef}
    {parcel : Parcel Nat} (there : x.ops[number]? = some ⟨call, .handed parcel⟩) :
    Tied canceled ((x, .run number) :: history)
      (({ x with opened := (number, ⟨parcel.executor, x.isCanceled parcel.delegate⟩) ::
        x.opened }).react number (some parcel.executor)
          (parcel.unpack (x.isCanceled parcel.delegate))) := by
  have same_call : parcel.delegate.innermost = call.innermost := by
    cases orderly.fits number _ there with
    | handed leads _ _ _ => exact leads.innermost
  refine ⟨fun index => ?_, fun other op there' => ?_, fun other outside => ?_⟩
  · rw [canceled_react]
    exact tied.marked index
  · rw [ops_react] at there'
    obtain ⟨op', before, same⟩ := call_of_modify there'
    have seen := tied.seen other op' before
    rw [opened_react, ← same]
    by_cases this_one : number = other
    · subst this_one
      rw [there] at before
      cases before
      simp [runs, seen, isCanceled, same_call]
    · simp [runs, seen, this_one, Ne.symm this_one]
  · rw [ops_react, List.length_modify] at outside
    have elsewhere : number ≠ other := by
      rintro rfl
      rw [List.getElem?_eq_none_iff.mpr outside] at there
      cases there
    simp only [runs, elsewhere, if_false]
    exact tied.unrun other outside

theorem Tied.step (tied : Tied canceled history x) (orderly : Orderly x) {x' : Exchange}
    {label : ExchangeStep} (taken : x.step? label = some x') :
    Tied canceled ((x, label) :: history) x' := by
  cases move_of_step? taken with
  | enqueue call => exact tied.enqueue orderly call
  | mark call flag => exact tied.mark call flag
  | complete outcome there =>
      exact tied.move (ops_react _ _ _ _) (canceled_react ..) (opened_react ..) rfl rfl
  | run there => exact tied.run orderly there
  | lose there held => exact tied.move rfl rfl rfl rfl rfl

end Histories

/-! ### What callers can rely on -/

section Runs

variable {x : Exchange} {number : Nat}

theorem Orderly.told_of_heard (orderly : Orderly x) {hearing : Hearing}
    (mem : (number, hearing) ∈ x.heard) :
    ∃ call, x.ops[number]? = some ⟨call, .told⟩ ∧
      (x.trace number).Reaches call hearing.outcome ∧
      entries x.handed number = call.executors ∧ hearing.call = call ∧
      hearing.within = call.executor? := by
  have inside : hearing ∈ (x.trace number).heard := mem_entries.mpr mem
  cases there : x.ops[number]? with
  | none =>
      rw [orderly.fresh number (List.getElem?_eq_none_iff.mp there)] at inside
      cases inside
  | some op =>
      cases orderly.fits number op there with
      | @told call only reaches handed heard of_call within =>
          rw [heard] at inside
          obtain rfl := List.mem_singleton.mp inside
          exact ⟨call, rfl, reaches, handed, of_call, within⟩
      | waiting _ nothing =>
          rw [nothing] at inside
          cases inside
      | handed _ _ _ silent =>
          rw [silent] at inside
          cases inside
      | lost _ _ silent =>
          rw [silent] at inside
          cases inside

/-- Whoever is told something of a wrapper is told it when a parcel of this wrapper is opened. -/
theorem Orderly.tells (orderly : Orderly x) {x' : Exchange} {label : ExchangeStep}
    (taken : x.step? label = some x') {hearing : Hearing} (silent : (number, hearing) ∉ x.heard)
    (told : (number, hearing) ∈ x'.heard) {executor : Executor} {delegate : CallRef}
    (of_wrapper : hearing.call = .dispatching executor delegate) :
    label = .run number ∧ ∃ parcel, x.ops[number]? = some ⟨hearing.call, .handed parcel⟩ ∧
      parcel.wrapper = hearing.call := by
  cases move_of_step? taken with
  | enqueue | mark | lose => exact absurd told silent
  | @complete other call callback outcome there =>
      cases orderly.fits _ _ there with
      | waiting leads nothing =>
          cases callback with
          | listener other =>
              rcases List.mem_cons.mp told with this_one | before
              · cases this_one
                cases of_wrapper
              · exact absurd before silent
          | relay => exact absurd told silent
  | @run other call parcel there =>
      cases orderly.fits _ _ there with
      | handed leads _ _ _ =>
          rw [Parcel.unpack] at told
          cases callback : parcel.callback with
          | listener listener =>
              rw [callback] at leads told
              obtain ⟨rfl, wraps⟩ := leads
              rcases List.mem_cons.mp told with this_one | before
              · cases this_one
                exact ⟨rfl, parcel, wraps ▸ there, rfl⟩
              · exact absurd before silent
          | relay =>
              rw [callback] at told
              exact absurd told silent

theorem Orderly.moves_on (orderly : Orderly x) {call : CallRef} {parcel : Parcel Nat}
    (there : x.ops[number]? = some ⟨call, .handed parcel⟩) :
    ∃ x' place, x.step? (.run number) = some x' ∧ x'.ops[number]? = some ⟨call, place⟩ ∧
      (place = .told ∨ ∃ next, place = .handed next ∧ next.delegate = parcel.wrapper) := by
  cases orderly.fits number _ there with
  | handed leads _ _ _ =>
      have enabled : x.step? (.run number) = some
          (({ x with opened := (number, ⟨parcel.executor, x.isCanceled parcel.delegate⟩) ::
            x.opened }).react number (some parcel.executor)
              (parcel.unpack (x.isCanceled parcel.delegate))) := by
        simp only [step?, there]
      refine ⟨_, landing (parcel.unpack (x.isCanceled parcel.delegate)), enabled, ?_, ?_⟩
      · rw [ops_react, List.getElem?_modify_eq, there]
        rfl
      · unfold Parcel.unpack
        cases unpacked : parcel.callback with
        | listener other => exact Or.inl rfl
        | relay executor delegate next =>
            rw [unpacked] at leads
            exact Or.inr ⟨_, rfl, leads.1⟩

end Runs

end Exchange

end RemoteCall
