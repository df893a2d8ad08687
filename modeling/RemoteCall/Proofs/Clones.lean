import RemoteCall.Proofs.Operations
import RemoteCall.Proofs.Run

/-!
Copies of calls share nothing but what they were made with.

`Population.Effect` says what a step does to the calls: an operation changes the innermost call that
it is made on, a copy is put behind all others, and everything else changes none. So a call ends as
it would if only the operations on it had been made (`Population.alone_of_run`), and so does every
copy, from the moment on that it is made (`Population.shares_nothing`).
-/

namespace RemoteCall

variable {σ κ : Type}

/-! ### Steps -/

/-- A step is an operation on a made call or on one of its wrappers. -/
def PopulationStep.isOn (index : Nat) : PopulationStep σ κ → Bool
  | .operate call _ => call.innermost == index
  | _ => false

namespace Population

/-- What a step does to the calls. -/
inductive Effect (s : Population σ κ) : PopulationStep σ κ → Population σ κ → Prop where
  | operated {call : CallRef} {op : CallOp (Listener κ)} {c c' : MadeCall σ κ} {t : Population σ κ}
      (there : s.calls[call.innermost]? = some c) (after : c.after? (op.through call) = some c')
      (calls : t.calls = s.calls.set call.innermost c') : Effect s (.operate call op) t
  | cloned {call : CallRef} {c : MadeCall σ κ} {t : Population σ κ}
      (there : s.calls[call.innermost]? = some c)
      (calls : t.calls = s.calls ++ [Engine.copyMade c]) : Effect s (.clone call) t
  | spared {label : PopulationStep σ κ} {t : Population σ κ}
      (elsewhere : ∀ index, label.isOn index = false) (calls : t.calls = s.calls) :
      Effect s label t

section Steps

variable {s t : Population σ κ} {call : CallRef} {op : CallOp (Listener κ)} {c c' : MadeCall σ κ}
  {label : PopulationStep σ κ} {index : Nat}

@[simp] theorem calls_react (s : Population σ κ) (reaction : Reaction (Listener κ)) :
    (s.react reaction).calls = s.calls := by
  cases reaction with
  | tell listener call outcome => rfl
  | submit parcel => rfl

@[simp] theorem calls_hear (s : Population σ κ) (index : Nat)
    (heard : List (Callback (Listener κ) × Outcome)) : (s.hear index heard).calls = s.calls := by
  unfold hear
  induction heard generalizing s with
  | nil => rfl
  | cons first rest ih => exact (ih _).trans (s.calls_react _)

@[simp] theorem calls_settle (s : Population σ κ) (call : CallRef) (upshot : Upshot κ) :
    (s.settle call upshot).calls = s.calls := by
  cases upshot with
  | calls heard => exact s.calls_hear _ heard
  | _ => rfl

theorem calls_of_poll? {answer : Option Reply} {outcome? : Option Outcome}
    (polled : s.poll? index answer = some (outcome?, t)) : t.calls = s.calls := by
  unfold poll? at polled
  split at polled
  · cases polled
    rfl
  · cases polled

theorem operate?_eq (there : s.calls[call.innermost]? = some c) (op : CallOp (Listener κ)) :
    s.operate? call op =
      ((c.operate (op.through call)).run s.plugins).1.map fun (upshot, c') =>
        { s with
          plugins := ((c.operate (op.through call)).run s.plugins).2
          calls := s.calls.set call.innermost c' }.settle call upshot := by
  rw [operate?, there]
  rfl

theorem calls_of_operate? (operated : s.operate? call op = some t) :
    ∃ c c', s.calls[call.innermost]? = some c ∧ c.after? (op.through call) = some c' ∧
      t.calls = s.calls.set call.innermost c' := by
  obtain ⟨c, there, _⟩ := Option.bind_eq_some_iff.mp operated
  rw [operate?_eq there] at operated
  obtain ⟨⟨upshot, c'⟩, result, rfl⟩ := Option.map_eq_some_iff.mp operated
  have after := c.operate_after (op.through call) s.plugins
  rw [result] at after
  exact ⟨c, c', there, after.symm, calls_settle _ _ _⟩

/-- An operation that a call has can always be made. -/
theorem operate?_of_there (there : s.calls[call.innermost]? = some c)
    (after : c.after? (op.through call) = some c') :
    ∃ t, s.operate? call op = some t ∧ t.calls = s.calls.set call.innermost c' := by
  rw [← c.operate_after (op.through call) s.plugins] at after
  obtain ⟨⟨upshot, _⟩, result, rfl⟩ := Option.map_eq_some_iff.mp after
  rw [operate?_eq there, result]
  exact ⟨_, rfl, calls_settle _ _ _⟩

theorem clone?_of_there (there : s.calls[call.innermost]? = some c) :
    s.clone? call = some (call.around s.calls.length,
      { s with calls := s.calls ++ [Engine.copyMade c] }) := by
  induction call with
  | made index => exact congrArg _ there
  | dispatching executor delegate ih =>
      rw [clone?, ih there]
      rfl

theorem there_of_clone? {copy : CallRef} (cloned : s.clone? call = some (copy, t)) :
    ∃ c, s.calls[call.innermost]? = some c := by
  induction call generalizing copy with
  | made index =>
      obtain ⟨c, there, _⟩ := Option.map_eq_some_iff.mp cloned
      exact ⟨c, there⟩
  | dispatching executor delegate ih =>
      obtain ⟨⟨copy, _⟩, cloned, same⟩ := Option.map_eq_some_iff.mp cloned
      cases same
      exact ih cloned

theorem effect_of_step? (taken : s.step? label = some t) : Effect s label t := by
  cases label with
  | operate call op =>
      obtain ⟨c, c', there, after, calls⟩ := calls_of_operate? taken
      exact .operated there after calls
  | clone call =>
      obtain ⟨⟨copy, _⟩, cloned, rfl⟩ := Option.map_eq_some_iff.mp taken
      obtain ⟨c, there⟩ := there_of_clone? cloned
      rw [clone?_of_there there] at cloned
      cases cloned
      exact .cloned there rfl
  | unpack index =>
      obtain ⟨parcel, _, rfl⟩ := Option.map_eq_some_iff.mp taken
      exact .spared (fun _ => rfl) (calls_react _ _)
  | discard index =>
      obtain ⟨parcel, _, rfl⟩ := Option.map_eq_some_iff.mp taken
      exact .spared (fun _ => rfl) rfl
  | poll index answer =>
      obtain ⟨⟨call, delivery⟩, _, rest⟩ := Option.bind_eq_some_iff.mp taken
      obtain ⟨⟨outcome?, after⟩, polled, same⟩ := Option.map_eq_some_iff.mp rest
      have calls := calls_of_poll? polled
      cases outcome? with
      | none =>
          cases same
          exact .spared (fun _ => rfl) calls
      | some outcome =>
          cases same
          exact .spared (fun _ => rfl) ((calls_hear _ _ _).trans calls)
  | drop index =>
      obtain ⟨⟨call, delivery⟩, _, rfl⟩ := Option.map_eq_some_iff.mp taken
      exact .spared (fun _ => rfl) (calls_hear _ _ _)
  | wait index answer =>
      obtain ⟨call, _, rest⟩ := Option.bind_eq_some_iff.mp taken
      obtain ⟨⟨outcome?, after⟩, polled, same⟩ := Option.map_eq_some_iff.mp rest
      have calls := calls_of_poll? polled
      cases outcome? with
      | none =>
          cases same
          exact .spared (fun _ => rfl) calls
      | some outcome =>
          cases same
          exact .spared (fun _ => rfl) calls
  | plugins state =>
      cases taken
      exact .spared (fun _ => rfl) rfl

/-- Calls do not go. -/
theorem Effect.bound (effect : Effect s label t) (bound : index < s.calls.length) :
    index < t.calls.length := by
  cases effect with
  | operated _ _ calls => rwa [calls, List.length_set]
  | cloned _ calls =>
      rw [calls, List.length_append]
      exact Nat.lt_add_right _ bound
  | spared _ calls => rwa [calls]

/-- A step that is not an operation on a call leaves it as it is. -/
theorem Effect.elsewhere (effect : Effect s label t) (elsewhere : label.isOn index = false)
    (bound : index < s.calls.length) : t.calls[index]? = s.calls[index]? := by
  cases effect with
  | operated _ _ calls =>
      rw [calls]
      exact List.getElem?_set_ne (beq_eq_false_iff_ne.mp elsewhere)
  | cloned _ calls =>
      rw [calls]
      exact List.getElem?_append_left bound
  | spared _ calls => rw [calls]

/-- An operation can also be made where only the call itself is the same, and does the same to
it. -/
theorem Effect.again (effect : Effect s label t) (on : label.isOn index = true)
    {other : Population σ κ} (same : other.calls[index]? = s.calls[index]?) :
    ∃ after, other.step? label = some after ∧ after.calls[index]? = t.calls[index]? := by
  cases effect with
  | @operated call op c c' _ there after calls =>
      obtain rfl : call.innermost = index := beq_iff_eq.mp on
      obtain ⟨next, operated, set⟩ := operate?_of_there (same.trans there) after
      have bound := (List.getElem?_eq_some_iff.mp there).1
      have bound_other := (List.getElem?_eq_some_iff.mp (same.trans there)).1
      refine ⟨next, operated, ?_⟩
      rw [set, calls, List.getElem?_set_self bound, List.getElem?_set_self bound_other]
  | cloned => cases on
  | spared elsewhere _ => exact absurd ((elsewhere index).symm.trans on) Bool.false_ne_true

/-- What a call was made with stays. -/
theorem Effect.make (effect : Effect s label t) (there : s.calls[index]? = some c) :
    ∃ c', t.calls[index]? = some c' ∧ c'.make = c.make := by
  have bound := (List.getElem?_eq_some_iff.mp there).1
  cases on : label.isOn index with
  | false => exact ⟨c, (effect.elsewhere on bound).trans there, rfl⟩
  | true =>
      cases effect with
      | @operated call op before after _ at_call after_of calls =>
          obtain rfl : call.innermost = index := beq_iff_eq.mp on
          rw [there] at at_call
          cases at_call
          refine ⟨after, ?_, MadeCall.make_of_after? after_of⟩
          rw [calls]
          exact List.getElem?_set_self bound
      | cloned => cases on
      | spared elsewhere _ => exact absurd ((elsewhere index).symm.trans on) Bool.false_ne_true

end Steps

/-! ### Runs -/

/-- The steps of a run with the states before them, the latest first. -/
abbrev History (σ κ : Type) := List (Population σ κ × PopulationStep σ κ)

/-- After the operations of a run that are made on one call or on its wrappers, and nothing else,
this call is as it is after the whole run, with its flags and the callback that waits on it. -/
def Alone (start : Population σ κ) (history : History σ κ) (s : Population σ κ) (index : Nat) :
    Prop :=
  ∃ restricted t, Run step? start restricted t ∧
    restricted.map (·.2) = (history.map (·.2)).filter (·.isOn index) ∧
    t.calls[index]? = s.calls[index]?

/-- A copy is a call of its own, at its outset, made like the call that it is a copy of, with the
same executors around it. -/
structure Copies (s : Population σ κ) (call copy : CallRef) (t : Population σ κ) : Prop where
  new : copy.innermost = s.calls.length
  executors : copy.executors = call.executors
  calls : ∃ c c', s.calls[call.innermost]? = some c ∧ t.calls = s.calls ++ [c'] ∧ c'.CopyOf c

/-- Whatever happens to a call and to its copies, each is as if the others were not there. -/
structure SharesNothing (start : Population σ κ) (history : History σ κ) (s : Population σ κ) :
    Prop where
  alone : ∀ index, index < start.calls.length → Alone start history s index
  /-- A copy is alone from the moment on that it is made. -/
  copies : ∀ before call, (before, .clone call) ∈ history →
    ∃ copy after earlier later, history = later ++ (before, .clone call) :: earlier ∧
      before.clone? call = some (copy, after) ∧ before.Copies call copy after ∧
      Alone after later s copy.innermost
  unseen : ∀ before label after index, (before, label) ∈ history →
    before.step? label = some after → label.isOn index = false → index < before.calls.length →
    after.calls[index]? = before.calls[index]?
  make : ∀ {index : Nat} {c : MadeCall σ κ}, start.calls[index]? = some c →
    ∃ c' : MadeCall σ κ, s.calls[index]? = some c' ∧ c'.make = c.make
  /-- Every call can be copied at any time. -/
  copied : ∀ call, call.innermost < s.calls.length → ∃ t, s.step? (.clone call) = some t

section Runs

variable {start s : Population σ κ} {history : History σ κ} {index : Nat}

theorem alone_of_run (run : Run step? start history s) (bound : index < start.calls.length) :
    Alone start history s index := by
  induction run with
  | refl => exact ⟨[], start, .refl, rfl, rfl⟩
  | @step earlier before after label run taken ih =>
      obtain ⟨restricted, t, alone, labels, same⟩ := ih
      have effect := effect_of_step? taken
      cases on : label.isOn index with
      | true =>
          obtain ⟨next, again, after_same⟩ := effect.again on same
          refine ⟨(t, label) :: restricted, next, alone.step again, ?_, after_same⟩
          rw [List.map_cons, List.map_cons, List.filter_cons_of_pos on, labels]
      | false =>
          have there := run.keeps (P := fun s => index < s.calls.length)
            (fun taken => (effect_of_step? taken).bound) bound
          refine ⟨restricted, t, alone, ?_, same.trans (effect.elsewhere on there).symm⟩
          rw [List.map_cons, List.filter_cons_of_neg (by simp [on]), labels]

theorem copies_of_clone? {call copy : CallRef} {t : Population σ κ}
    (cloned : s.clone? call = some (copy, t)) : s.Copies call copy t := by
  obtain ⟨c, there⟩ := there_of_clone? cloned
  rw [clone?_of_there there] at cloned
  cases cloned
  exact ⟨call.innermost_around _, call.executors_around _, c, _, there, rfl, c.copyOf_copyMade⟩

/-- Calls and their copies, and the copies of these, share nothing but what they were made with:
whatever is done to some of them, each of the others is as if that had not been done. -/
theorem shares_nothing (run : Run step? start history s) : SharesNothing start history s where
  alone index bound := alone_of_run run bound
  copies before call mem := by
    obtain ⟨after, earlier, later, split, _, taken, rest⟩ := run.cut mem
    obtain ⟨⟨copy, _⟩, cloned, rfl⟩ := Option.map_eq_some_iff.mp taken
    have copies := copies_of_clone? cloned
    refine ⟨copy, _, earlier, later, split, cloned, copies, alone_of_run rest ?_⟩
    obtain ⟨c, c', _, calls, _⟩ := copies.calls
    rw [copies.new, calls, List.length_append]
    exact Nat.lt_succ_self _
  unseen before label after index _ taken elsewhere bound :=
    (effect_of_step? taken).elsewhere elsewhere bound
  make {index c} there := run.keeps
    (P := fun s => ∃ c', s.calls[index]? = some c' ∧ c'.make = c.make)
    (fun taken ⟨c', now, same⟩ => by
      obtain ⟨next, then_there, made⟩ := (effect_of_step? taken).make now
      exact ⟨next, then_there, made.trans same⟩)
    ⟨c, there, rfl⟩
  copied call bound := by
    have there := List.getElem?_eq_getElem bound
    exact ⟨_, congrArg (Option.map Prod.snd) (clone?_of_there there)⟩

end Runs

/-- A call that never ends on its own. -/
def pendingCall : MadeCall Unit Unit :=
  .scripted none
    { request := { verb := .get, url := "/" }, script := .hang
      converter := fun body => pure (.ok (.body body)) }

/-- One call that was not used yet. -/
def onePending : Population Unit Unit where
  plugins := ()
  calls := [pendingCall]

/-- Two wrappers around a call. -/
def twiceWrapped (index : Nat) : CallRef :=
  .dispatching .manual (.dispatching .concurrent (.made index))

/-- A wrapped call is copied while its callback waits, and the copy is enqueued and copied in turn.
Then the first call is canceled, and the copy of the copy is run. -/
def copyThenCancel : List (PopulationStep Unit Unit) :=
  [.operate (twiceWrapped 0) (.enqueue (.user ())), .clone (twiceWrapped 0),
    .operate (twiceWrapped 1) (.enqueue (.user ())), .clone (twiceWrapped 1),
    .operate (twiceWrapped 0) .cancel, .unpack 0, .unpack 0,
    .operate (twiceWrapped 2) (.execute .plain)]

/-- The run of `copyThenCancel`: only the first call is canceled, and only the callback of the
second still waits. -/
theorem shares_nothing_canceled : ∃ history s,
    Run step? onePending history s ∧
      s.calls.map MadeCall.executed = [true, true, true] ∧
      s.calls.map MadeCall.canceled = [true, false, false] ∧
      s.calls.map (·.parked?.isSome) = [false, true, false] ∧
      SharesNothing onePending history s := by
  have ends : (copyThenCancel.foldlM step? onePending).map
      (fun s => (s.calls.map MadeCall.executed, s.calls.map MadeCall.canceled,
        s.calls.map (·.parked?.isSome))) =
      some ([true, true, true], [true, false, false], [false, true, false]) := rfl
  obtain ⟨s, taken, same⟩ := Option.map_eq_some_iff.mp ends
  obtain ⟨executed, canceled, parked⟩ : _ ∧ _ ∧ _ := by simpa only [Prod.mk.injEq] using same
  obtain ⟨history, run⟩ := Run.of_foldlM taken
  exact ⟨history, s, run, executed, canceled, parked, shares_nothing run⟩

end Population

end RemoteCall
