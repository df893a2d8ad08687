import RemoteCall.Call.Line

/-!
What the steps of a line do.

`Polled` lists the ways a poll of a wired call can go, and `Line.Move` the ways a step of a line can
go, each with the state that it leads to. All later statements on lines are drawn from
`Line.move_of_step?`.
-/

namespace RemoteCall

variable {σ τ : Type}

/-- A delivery that has delivered has nothing left to drop. -/
theorem Delivery.finish_eq {γ : Type} (d : Delivery γ) (outcome : Outcome) :
    d.finish outcome = d.callback.toList.map (·, outcome) := by
  unfold Delivery.finish Delivery.deliver Delivery.drop
  simp

/-- How a poll of a wired call goes: what comes out, and the plug-ins after it. -/
inductive Polled (call : TransportCall σ τ) (answer : Option Reply) (plugins : σ) :
    Option Outcome → σ → Prop where
  | canceled (stopped : call.canceled = true) :
      Polled call answer plugins (some (.error .canceled)) plugins
  | failed {error : TransportError} (active : call.canceled = false)
      (there : answer = some (.error error)) :
      Polled call answer plugins (some (.error (.transport error))) plugins
  | parsed {raw : RawResponse} {outcome : Outcome} {after : σ} (active : call.canceled = false)
      (there : answer = some (.ok raw))
      (parse : parseResponse call.converter raw plugins = (outcome, after)) :
      Polled call answer plugins (some outcome) after
  | pending (active : call.canceled = false) (there : answer = none) :
      Polled call answer plugins none plugins

theorem TransportCall.polled (call : TransportCall σ τ) (answer : Option Reply) (plugins : σ) :
    Polled call answer plugins (call.poll answer plugins).1 (call.poll answer plugins).2 := by
  unfold TransportCall.poll
  cases stopped : call.canceled with
  | true => exact .canceled stopped
  | false =>
      rcases answer with _ | error | raw
      · exact .pending stopped rfl
      · exact .failed stopped rfl
      · exact .parsed stopped rfl rfl

namespace Line

/-- The operations that the transport was polled for, once the run is polled for some more. -/
def askedWith (l : Line σ τ) (numbers : List Nat) : List Nat :=
  if l.call.canceled then l.asked else numbers ++ l.asked

/-- A step and the state that it leads to. -/
inductive Move (l : Line σ τ) : LineStep σ → Line σ τ → Prop where
  | accept (free : l.call.executed = false) :
      Move l .enqueue { l with
        call := { l.call with executed := true }
        ops := l.ops ++ [.enqueue]
        unspawned := l.unspawned ++ [⟨some l.ops.length⟩] }
  | refuse (used : l.call.executed = true) :
      Move l .enqueue { l with
        call := { l.call with executed := true }
        ops := l.ops ++ [.enqueue]
        heard := (l.ops.length, .error .alreadyExecuted) :: l.heard }
  | spawn {index : Nat} {delivery : Delivery Nat} (there : l.unspawned[index]? = some delivery)
      (running : l.running = true) :
      Move l (.spawn index) { l with
        unspawned := l.unspawned.eraseIdx index
        tasks := l.tasks ++ [delivery] }
  | spawnClosed {index : Nat} {delivery : Delivery Nat}
      (there : l.unspawned[index]? = some delivery) (closed : l.running = false) :
      Move l (.spawn index) { l with
        unspawned := l.unspawned.eraseIdx index
        heard := delivery.drop ++ l.heard }
  | pollPending {index : Nat} {delivery : Delivery Nat} {plugins : σ}
      (there : l.tasks[index]? = some delivery)
      (polled : Polled l.call l.answer l.plugins none plugins) :
      Move l (.poll index) { l with plugins, asked := l.askedWith delivery.callback.toList }
  | pollEnds {index : Nat} {delivery : Delivery Nat} {outcome : Outcome} {plugins : σ}
      (there : l.tasks[index]? = some delivery)
      (polled : Polled l.call l.answer l.plugins (some outcome) plugins) :
      Move l (.poll index) { l with
        plugins
        asked := l.askedWith delivery.callback.toList
        tasks := l.tasks.eraseIdx index
        heard := delivery.callback.toList.map (·, outcome) ++ l.heard }
  | panic {index : Nat} {delivery : Delivery Nat} (there : l.tasks[index]? = some delivery)
      (active : l.call.canceled = false) :
      Move l (.panic index)
        { l.dropTask index delivery with asked := delivery.callback.toList ++ l.asked }
  | drop {index : Nat} {delivery : Delivery Nat} (there : l.tasks[index]? = some delivery)
      (closed : l.running = false) : Move l (.drop index) (l.dropTask index delivery)
  | executeBlocked : Move l (.execute .currentThread) { l with
        ops := l.ops ++ [.execute .currentThread]
        returned := (l.ops.length, .error blockedHere) :: l.returned }
  | executeAccept {context : Context} (mayBlock : context ≠ .currentThread)
      (free : l.call.executed = false) :
      Move l (.execute context) { l with
        call := { l.call with executed := true }
        ops := l.ops ++ [.execute context]
        blocked := l.blocked ++ [l.ops.length] }
  | executeRefuse {context : Context} (mayBlock : context ≠ .currentThread)
      (used : l.call.executed = true) :
      Move l (.execute context) { l with
        call := { l.call with executed := true }
        ops := l.ops ++ [.execute context]
        returned := (l.ops.length, .error .alreadyExecuted) :: l.returned }
  | waitPending {index number : Nat} {plugins : σ} (there : l.blocked[index]? = some number)
      (polled : Polled l.call l.answer l.plugins none plugins) :
      Move l (.wait index) { l with plugins, asked := l.askedWith [number] }
  | waitEnds {index number : Nat} {outcome : Outcome} {plugins : σ}
      (there : l.blocked[index]? = some number)
      (polled : Polled l.call l.answer l.plugins (some outcome) plugins) :
      Move l (.wait index) { l with
        plugins
        asked := l.askedWith [number]
        blocked := l.blocked.eraseIdx index
        returned := (number, outcome) :: l.returned }
  | unwind {index number : Nat} (there : l.blocked[index]? = some number)
      (active : l.call.canceled = false) :
      Move l (.unwind index) { l with
        blocked := l.blocked.eraseIdx index
        panicked := number :: l.panicked
        asked := number :: l.asked }
  | cancel : Move l .cancel { l with call := { l.call with canceled := true } }
  | answer {reply : Reply} (silent : l.answer = none) :
      Move l (.answer reply) { l with answer := some reply }
  | shutdown : Move l .shutdown { l with running := false }
  | plugins {state : σ} : Move l (.plugins state) { l with plugins := state }

theorem look_eq (l : Line σ τ) (numbers : List Nat) :
    ∃ outcome plugins, l.look numbers =
        (outcome, { l with plugins, asked := l.askedWith numbers }) ∧
      Polled l.call l.answer l.plugins outcome plugins :=
  ⟨_, _, rfl, l.call.polled l.answer l.plugins⟩

theorem move_of_poll {l l' : Line σ τ} {index : Nat}
    (taken : l.step? (.poll index) = some l') : Move l (.poll index) l' := by
  dsimp only [step?] at taken
  split at taken
  · cases taken
  · next delivery there =>
    obtain ⟨outcome, plugins, looked, polled⟩ := l.look_eq delivery.callback.toList
    rw [looked] at taken
    cases outcome with
    | none =>
        cases taken
        exact .pollPending there polled
    | some outcome =>
        cases taken
        rw [Delivery.finish_eq]
        exact .pollEnds there polled

theorem move_of_wait {l l' : Line σ τ} {index : Nat}
    (taken : l.step? (.wait index) = some l') : Move l (.wait index) l' := by
  dsimp only [step?] at taken
  split at taken
  · cases taken
  · next number there =>
    obtain ⟨outcome, plugins, looked, polled⟩ := l.look_eq [number]
    rw [looked] at taken
    cases outcome with
    | none =>
        cases taken
        exact .waitPending there polled
    | some outcome =>
        cases taken
        exact .waitEnds there polled

theorem move_of_execute {l l' : Line σ τ} {context : Context}
    (taken : l.step? (.execute context) = some l') : Move l (.execute context) l' := by
  dsimp only [step?, TransportCall.claimHere, TransportCall.claim] at taken
  by_cases here : context = .currentThread
  · subst here
    cases taken
    exact .executeBlocked
  · rw [if_neg here] at taken
    cases used : l.call.executed with
    | false =>
        rw [used] at taken
        cases taken
        exact .executeAccept here used
    | true =>
        rw [used] at taken
        cases taken
        exact .executeRefuse here used

/-- Every step is one of the moves. -/
theorem move_of_step? {l l' : Line σ τ} {label : LineStep σ} (taken : l.step? label = some l') :
    Move l label l' := by
  cases label with
  | enqueue =>
      dsimp only [step?, TransportCall.enqueue, TransportCall.claim] at taken
      cases used : l.call.executed with
      | false =>
          rw [used] at taken
          cases taken
          exact .accept used
      | true =>
          rw [used] at taken
          cases taken
          exact .refuse used
  | spawn index =>
      dsimp only [step?] at taken
      split at taken
      · cases taken
      · next delivery there =>
        split at taken
        · next running =>
          cases taken
          exact .spawn there running
        · next closed =>
          cases taken
          exact .spawnClosed there (Bool.eq_false_iff.mpr closed)
  | poll index => exact move_of_poll taken
  | panic index =>
      dsimp only [step?] at taken
      split at taken
      · cases taken
      · next delivery there =>
        split at taken
        · cases taken
        · next active =>
          cases taken
          exact .panic there (Bool.eq_false_iff.mpr active)
  | drop index =>
      dsimp only [step?] at taken
      split at taken
      · cases taken
      · next delivery there =>
        split at taken
        · cases taken
        · next closed =>
          cases taken
          exact .drop there (Bool.eq_false_iff.mpr closed)
  | execute context => exact move_of_execute taken
  | wait index => exact move_of_wait taken
  | unwind index =>
      dsimp only [step?] at taken
      split at taken
      · cases taken
      · next number there =>
        split at taken
        · cases taken
        · next active =>
          cases taken
          exact .unwind there (Bool.eq_false_iff.mpr active)
  | cancel =>
      cases taken
      exact .cancel
  | answer reply =>
      dsimp only [step?] at taken
      split at taken
      · cases taken
      · next silent =>
        cases taken
        exact .answer (Option.not_isSome_iff_eq_none.mp silent)
  | shutdown =>
      cases taken
      exact .shutdown
  | plugins state =>
      cases taken
      exact .plugins

end Line

end RemoteCall
