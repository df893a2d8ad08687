import RemoteCall.Engine.Futures

/-!
Which operations ask a call maker for a call.

`Spares e e'` says that no maker was asked between two states: the calls have the makers that they
had, and the calls that were added have none, as copies have. The registries are the same, too. An
operation is `Sparing` if that is so from every state. Whatever adapters, callbacks, jobs and awaits
do is sparing (`sparing_perform`, `sparing_settle`, `sparing_pollBridge`); only `newCall` asks
(`run_newCall`).
-/

namespace RemoteCall

variable {σ κ α β : Type}

/-- The maker that keeps the call. A copy is kept by none, nor is a call that is not scripted. -/
def MadeCall.maker? : MadeCall σ κ → Option Nat
  | .scripted maker _ => maker
  | .wired _ | .lossy _ => none

theorem MadeCall.maker?_copyMade (call : MadeCall σ κ) : (Engine.copyMade call).maker? = none := by
  cases call with
  | scripted maker c => rfl
  | wired c => rfl
  | lossy request => rfl

namespace Engine

/-- The makers of the calls, the oldest call first. -/
def makers (e : Engine σ κ) : List (Option Nat) := e.calls.map MadeCall.maker?

/-- Between the states no maker was asked, no method was invoked, and no registry was changed. -/
structure Spares (e e' : Engine σ κ) : Prop where
  /-- The calls that were added have no maker. -/
  copies : ∃ n, e'.makers = e.makers ++ List.replicate n none
  /-- A future that waits for its first poll did so before. -/
  planned : ∀ {future : Nat} {h : ClientHandle σ κ} {id : MethodId} {args : Arguments}
    {envelope : Bool}, e'.futures[future]? = some (.planned h id args envelope) →
      e.futures[future]? = some (.planned h id args envelope)
  registries : e'.registries = e.registries

namespace Spares

variable {e e' e'' : Engine σ κ}

theorem of_same (calls : e'.calls = e.calls) (futures : e'.futures = e.futures)
    (registries : e'.registries = e.registries) : Spares e e' where
  copies := ⟨0, by rw [makers, makers, calls, List.replicate_zero, List.append_nil]⟩
  planned there := futures ▸ there
  registries := registries

theorem trans (first : Spares e e') (rest : Spares e' e'') : Spares e e'' where
  copies := by
    obtain ⟨m, before⟩ := first.copies
    obtain ⟨n, after⟩ := rest.copies
    exact ⟨m + n, by rw [after, before, List.append_assoc, List.replicate_append_replicate]⟩
  planned there := first.planned (rest.planned there)
  registries := rest.registries.trans first.registries

/-- A call may change as long as its maker is the same. -/
theorem of_set {index : Nat} {call : MadeCall σ κ} (set : e'.calls = e.calls.set index call)
    (kept : e.calls[index]?.map MadeCall.maker? = some call.maker?)
    (futures : e'.futures = e.futures) (registries : e'.registries = e.registries) :
    Spares e e' where
  copies := by
    refine ⟨0, ?_⟩
    rw [makers, makers, set, List.map_set, List.replicate_zero, List.append_nil]
    refine List.ext_getElem? fun i => ?_
    by_cases same : index = i
    · subst same
      have lt : index < (e.calls.map MadeCall.maker?).length := by
        obtain ⟨old, there, _⟩ := Option.map_eq_some_iff.mp kept
        rw [List.length_map]
        exact (List.getElem?_eq_some_iff.mp there).1
      rw [List.getElem?_set_self lt, List.getElem?_map, kept]
    · rw [List.getElem?_set_ne same]
  planned there := futures ▸ there
  registries := registries

theorem of_append {call : MadeCall σ κ} (append : e'.calls = e.calls ++ [call])
    (copy : call.maker? = none) (futures : e'.futures = e.futures)
    (registries : e'.registries = e.registries) : Spares e e' where
  copies := by
    refine ⟨1, ?_⟩
    rw [makers, makers, append, List.map_append, List.map_singleton, copy]
    rfl
  planned there := futures ▸ there
  registries := registries

/-- A future may get on as long as it is not planned anew. -/
theorem of_futures (calls : e'.calls = e.calls)
    (planned : ∀ {future : Nat} {h : ClientHandle σ κ} {id : MethodId} {args : Arguments}
      {envelope : Bool}, e'.futures[future]? = some (.planned h id args envelope) →
        e.futures[future]? = some (.planned h id args envelope))
    (registries : e'.registries = e.registries) : Spares e e' where
  copies := ⟨0, by rw [makers, makers, calls, List.replicate_zero, List.append_nil]⟩
  planned := planned
  registries := registries

end Spares

/-- The operation asks no maker, whatever the state is. -/
def Sparing (m : EngineM σ κ α) : Prop := ∀ e, Spares e (m.run e).2

namespace Sparing

theorem of_pure (a : α) : Sparing (pure a : EngineM σ κ α) := fun _ => .of_same rfl rfl rfl

theorem of_modify {f : Engine σ κ → Engine σ κ} (calls : ∀ e, (f e).calls = e.calls)
    (futures : ∀ e, (f e).futures = e.futures)
    (registries : ∀ e, (f e).registries = e.registries) : Sparing (modify f : EngineM σ κ PUnit) :=
  fun e => .of_same (calls e) (futures e) (registries e)

theorem bind {m : EngineM σ κ α} {f : α → EngineM σ κ β} (first : Sparing m)
    (rest : ∀ a, Sparing (f a)) : Sparing (m >>= f) := by
  intro e
  rw [StateT.run_bind]
  exact (first e).trans (rest (m.run e).1 (m.run e).2)

/-- An operation that begins with a look at the state. -/
theorem of_get_bind {f : Engine σ κ → EngineM σ κ α} (each : ∀ e, Spares e ((f e).run e).2) :
    Sparing (get >>= f) :=
  each

theorem forIn {f : α → PUnit → EngineM σ κ (ForInStep PUnit)} (each : ∀ a, Sparing (f a ⟨⟩))
    (as : List α) : Sparing (ForIn.forIn as ⟨⟩ f) := by
  induction as with
  | nil => exact of_pure _
  | cons a as ih =>
      rw [List.forIn_cons]
      refine (each a).bind fun step => ?_
      cases step with
      | done _ => exact of_pure _
      | yield _ => exact ih

end Sparing

/-! ### Tasks, queues and futures -/

theorem sparing_addTask (task : Task κ) : Sparing (addTask task : EngineM σ κ Unit) :=
  .of_modify (fun _ => rfl) (fun _ => rfl) fun _ => rfl

theorem sparing_wake (condition : Task κ → Bool) : Sparing (wake condition : EngineM σ κ Unit) :=
  .of_modify (fun _ => rfl) (fun _ => rfl) fun _ => rfl

theorem sparing_keep (call : CallRef) : Sparing (keep call : EngineM σ κ Unit) :=
  .of_modify (fun _ => rfl) (fun _ => rfl) fun _ => rfl

theorem sparing_letGo (call : CallRef) : Sparing (letGo call : EngineM σ κ Unit) :=
  .of_modify (fun _ => rfl) (fun _ => rfl) fun _ => rfl

theorem sparing_updateAwait (index : Nat) (f : Await → Await) :
    Sparing (updateAwait index f : EngineM σ κ Unit) := by
  intro e
  refine .of_futures rfl (fun {future h id args envelope} there => ?_) rfl
  have modified : ((updateAwait index f).run e).2.futures = e.futures.modify index _ := rfl
  rw [modified, List.getElem?_modify] at there
  obtain ⟨stage, before, same⟩ := Option.map_eq_some_iff.mp there
  rw [before]
  split at same
  · cases stage with
    | bridged handle call purpose await => cases same
    | planned => exact congrArg some same
    | ended => cases same
  · rw [same]

theorem sparing_wakeCarrier (index : Nat) : Sparing (wakeCarrier index : EngineM σ κ Unit) :=
  sparing_wake _

theorem sparing_wakeSerial : Sparing (wakeSerial : EngineM σ κ Unit) := by
  refine .of_get_bind fun e => ?_
  cases e.serial with
  | none => exact .of_same rfl rfl rfl
  | some q =>
      cases waiting : q.waiting with
      | false => simp only [waiting, Bool.false_eq_true, if_false]; exact .of_same rfl rfl rfl
      | true => simp only [waiting, if_true]; exact .of_same rfl rfl rfl

theorem sparing_stopSerial : Sparing (stopSerial : EngineM σ κ (List (Due σ κ))) := by
  refine .of_get_bind fun e => ?_
  cases e.serial with
  | none => exact .of_same rfl rfl rfl
  | some q => exact .of_same rfl rfl rfl

theorem sparing_dropTask (task : Task κ) :
    Sparing (dropTask task : EngineM σ κ (List (Due σ κ))) := by
  cases task with
  | carry call delivery => exact .of_pure _
  | job job => exact .of_pure _
  | serial => exact sparing_stopSerial

theorem sparing_spawn (task : Task κ) : Sparing (spawn task : EngineM σ κ (List (Due σ κ))) := by
  refine .of_get_bind fun e => ?_
  by_cases running : e.runtime = .running
  · simp only [running, if_true]
    exact (sparing_addTask task).bind (fun _ => .of_pure _) e
  · simp only [running, if_false]
    exact sparing_dropTask task e

theorem sparing_submit (executor : Executor) (job : Job κ) :
    Sparing (submit executor job : EngineM σ κ (List (Due σ κ))) := by
  cases executor with
  | inline => exact .of_pure _
  | discarding => exact .of_pure _
  | manual =>
      refine Sparing.bind (.of_modify (fun _ => rfl) (fun _ => rfl) fun _ => rfl) fun _ => ?_
      exact .of_pure _
  | serial =>
      refine .of_get_bind fun e => ?_
      cases e.serial.bind (·.push? job) with
      | none => exact .of_same rfl rfl rfl
      | some q =>
          have set : Spares e { e with serial := some q } := .of_same rfl rfl rfl
          exact set.trans (sparing_wakeSerial.bind (fun _ => .of_pure _) _)
  | concurrent => exact sparing_spawn _
  | custom number =>
      refine Sparing.bind (.of_modify (fun _ => rfl) (fun _ => rfl) fun _ => rfl) fun _ => ?_
      exact .of_pure _

/-! ### Calls -/

/-- A scripted call keeps its maker through whatever becomes of it. -/
theorem spares_scripted {e e' : Engine σ κ} {index : Nat} {maker : Option Nat}
    {c c' : ScriptedCall σ (Callback (Listener κ))}
    (there : e.calls[index]? = some (.scripted maker c))
    (set : e'.calls = e.calls.set index (.scripted maker c')) (futures : e'.futures = e.futures)
    (registries : e'.registries = e.registries) : Spares e e' :=
  .of_set set (congrArg (Option.map MadeCall.maker?) there) futures registries

theorem spares_wired {e e' : Engine σ κ} {index : Nat}
    {c c' : TransportCall σ (Request → Connection)} (there : e.calls[index]? = some (.wired c))
    (set : e'.calls = e.calls.set index (.wired c')) (futures : e'.futures = e.futures)
    (registries : e'.registries = e.registries) : Spares e e' :=
  .of_set set (congrArg (Option.map MadeCall.maker?) there) futures registries

theorem sparing_executeCall (call : CallRef) :
    Sparing (executeCall call : EngineM σ κ (Option Outcome)) := by
  refine .of_get_bind fun e => ?_
  rcases there : e.calls[call.innermost]? with _ | ⟨maker, c⟩ | c | request
  · exact .of_same rfl rfl rfl
  · exact spares_scripted there rfl rfl rfl
  · exact spares_wired there rfl rfl rfl
  · exact .of_same rfl rfl rfl

theorem sparing_enqueueMade (index : Nat) (callback : Callback (Listener κ)) :
    Sparing (enqueueMade index callback : EngineM σ κ (List (Due σ κ))) := by
  refine .of_get_bind fun e => ?_
  rcases there : e.calls[index]? with _ | ⟨maker, c⟩ | c | request
  · exact .of_same rfl rfl rfl
  · exact spares_scripted there rfl rfl rfl
  · rcases started : c.enqueue callback with ⟨heard | delivery, c'⟩
    · simp only [started]
      exact spares_wired there rfl rfl rfl
    · simp only [started]
      have set : Spares e { e with calls := e.calls.set index (.wired c') } :=
        spares_wired there rfl rfl rfl
      exact set.trans (sparing_spawn _ _)
  · exact .of_same rfl rfl rfl

theorem sparing_cancelCall (call : CallRef) :
    Sparing (cancelCall call : EngineM σ κ (List (Due σ κ))) := by
  refine .of_get_bind fun e => ?_
  rcases there : e.calls[call.innermost]? with _ | ⟨maker, c⟩ | c | request
  · exact .of_same rfl rfl rfl
  · exact spares_scripted there rfl rfl rfl
  · have set : Spares e { e with calls := e.calls.set call.innermost (.wired c.stop) } :=
      spares_wired there rfl rfl rfl
    exact set.trans ((sparing_wakeCarrier _).bind (fun _ => .of_pure _) _)
  · exact .of_same rfl rfl rfl

theorem sparing_cloneCall (call : CallRef) : Sparing (cloneCall call : EngineM σ κ CallRef) := by
  induction call with
  | made index =>
      refine .of_get_bind fun e => ?_
      cases e.calls[index]? with
      | none => exact .of_same rfl rfl rfl
      | some call => exact .of_append rfl call.maker?_copyMade rfl rfl
  | dispatching executor delegate ih => exact ih.bind fun _ => .of_pure _

theorem sparing_collect : Sparing (collect : EngineM σ κ (List (Due σ κ))) := by
  refine .of_get_bind fun e => ?_
  refine Sparing.bind (.forIn (fun lost => ?_) _) (fun _ => .of_pure _) e
  refine .of_get_bind fun e => ?_
  rcases there : e.calls[lost.1]? with _ | ⟨maker, c⟩ | c | request
  · exact .of_same rfl rfl rfl
  · exact spares_scripted there rfl rfl rfl
  · exact .of_same rfl rfl rfl
  · exact .of_same rfl rfl rfl

/-! ### What plug-ins do -/

theorem sparing_runManual {settle : List (Due σ κ) → EngineM σ κ Unit}
    (sparing : ∀ due, Sparing (settle due)) : Sparing (runManual settle) := by
  refine Sparing.bind (.of_modify (fun _ => rfl) (fun _ => rfl) fun _ => rfl) fun _ => ?_
  refine (sparing _).bind fun _ => ?_
  exact .of_get_bind fun e => .of_same rfl rfl rfl

theorem spares_takeCustom? {e e' : Engine σ κ} {number : Nat} {job : Job κ}
    (taken : e.takeCustom? number = some (job, e')) : Spares e e' := by
  obtain ⟨index, _, rest⟩ := Option.bind_eq_some_iff.mp taken
  obtain ⟨_, _, same⟩ := Option.bind_eq_some_iff.mp rest
  cases same
  exact .of_same rfl rfl rfl

/-- No action can ask a maker. -/
theorem sparing_perform {settle : List (Due σ κ) → EngineM σ κ Unit}
    (sparing : ∀ due, Sparing (settle due)) (action : Action σ κ α) :
    Sparing (perform settle action) := by
  induction action with
  | done value => exact .of_pure _
  | read next ih => exact .of_get_bind fun e => ih e.plugins e
  | write state next ih =>
      refine Sparing.bind (.of_modify (fun _ => rfl) (fun _ => rfl) fun _ => rfl) fun _ => ?_
      exact ih
  | inspect call next ih => exact .of_get_bind fun e => ih (e.view call) e
  | mayRun call next ih => exact .of_get_bind fun e => ih (e.mayRun call) e
  | execute call next ih => exact (sparing_executeCall call).bind ih
  | cancel call next ih =>
      exact (sparing_cancelCall call).bind fun due => (sparing due).bind fun _ => ih
  | clone call next ih => exact (sparing_cloneCall call).bind ih
  | enqueue call callback next ih =>
      refine Sparing.bind ?_ fun due => (sparing due).bind fun _ => ih
      exact sparing_enqueueMade _ _
  | release call next ih =>
      exact sparing_collect.bind fun due => (sparing due).bind fun _ => ih
  | submit executor job next ih =>
      exact (sparing_submit executor _).bind fun due => (sparing due).bind fun _ => ih
  | drain next ih => exact (sparing_runManual sparing).bind ih
  | takeJob executor run next ih =>
      refine .of_get_bind fun e => ?_
      rcases taken : e.takeCustom? executor with _ | ⟨job, e'⟩
      · exact ih false e
      · exact (spares_takeCustom? taken).trans ((sparing _).bind (fun _ => ih true) e')

theorem sparing_react (hooks : Hooks σ κ) (reaction : Reaction (Listener κ)) :
    Sparing (react hooks reaction) := by
  rcases reaction with ⟨name | await, call, outcome⟩ | parcel
  · exact .of_pure _
  · exact (sparing_updateAwait await _).bind fun _ => .of_pure _
  · exact sparing_submit _ _

theorem sparing_expand (hooks : Hooks σ κ) (due : Due σ κ) : Sparing (expand hooks due) := by
  cases due with
  | deliver callback call outcome => exact sparing_react hooks _
  | lose callback =>
      rw [expand]
      cases callback.last with
      | user name => exact .of_pure _
      | resume await => exact (sparing_updateAwait await _).bind fun _ => .of_pure _
  | run job =>
      cases job with
      | user name => exact .of_pure _
      | deliver parcel =>
          refine (sparing_keep _).bind fun _ => .of_get_bind fun e => ?_
          exact (sparing_react hooks _).bind (fun _ => .of_pure _) e
  | discard job =>
      cases job with
      | user name => exact .of_pure _
      | deliver parcel => exact (sparing_keep _).bind fun _ => .of_pure _
  | act action => exact .of_pure _
  | drain =>
      refine .of_get_bind fun e => ?_
      cases e.manual.take? with
      | none => exact .of_same rfl rfl rfl
      | some taken => exact .of_same rfl rfl rfl
  | work =>
      refine .of_get_bind fun e => ?_
      cases e.serial.bind (·.pop?) with
      | none => exact .of_same rfl rfl rfl
      | some taken => exact .of_same rfl rfl rfl
  | release call => exact (sparing_letGo call).bind fun _ => sparing_collect

/-- Nothing that is due can ask a maker. -/
theorem sparing_settle (hooks : Hooks σ κ) (turns : Nat) (due : List (Due σ κ)) :
    Sparing (settle hooks turns due) := by
  -- An action settles what it causes before it goes on, with one turn less.
  induction turns generalizing due with
  | zero =>
      cases due with
      | nil => exact .of_pure _
      | cons first rest => exact .of_pure _
  | succ turns ih =>
      cases due with
      | nil => exact .of_pure _
      | cons first rest =>
          cases first with
          | act action => exact (sparing_perform ih action).bind fun _ => ih rest
          | _ => exact (sparing_expand hooks _).bind fun next => (ih next).bind fun _ => ih rest

theorem sparing_settleAll (hooks : Hooks σ κ) (due : List (Due σ κ)) :
    Sparing (settleAll hooks due) :=
  sparing_settle hooks manyTurns due

/-- An await enqueues its call and looks for the outcome; it asks no maker. -/
theorem sparing_pollBridge (hooks : Hooks σ κ) (future : Nat) (call : CallRef) (purpose : Purpose) :
    Sparing (pollBridge hooks future call purpose) := by
  refine .of_get_bind fun e => ?_
  rcases e.futures[future]? with _ | _ | ⟨_, _, _, await⟩ | _
  · exact .of_same rfl rfl rfl
  · exact .of_same rfl rfl rfl
  · simp -zeta only []
    extract_lets look
    have sparing : ∀ u, Sparing (look u) := by
      intro u
      refine .of_get_bind fun e => ?_
      rcases e.futures[future]? with _ | _ | ⟨_, _, _, await⟩ | _
      · exact .of_same rfl rfl rfl
      · exact .of_same rfl rfl rfl
      · exact (sparing_updateAwait future _).bind (fun _ => .of_pure _) e
      · exact .of_same rfl rfl rfl
    split
    · refine Sparing.bind (sparing_updateAwait future _) (fun _ => ?_) e
      refine (sparing_enqueueMade _ _).bind fun due => ?_
      exact (sparing_settleAll hooks due).bind sparing
    · exact sparing ⟨⟩ e
  · exact .of_same rfl rfl rfl

/-! ### Asking a maker -/

/-- The call that a maker makes for a request. -/
def freshCall (maker : CallMaker) (request : Request) (converter : ResponseConverter σ) :
    MadeCall σ κ :=
  match maker with
  | .scripted number respond =>
    .scripted (some number) { request, converter, script := respond request }
  | .wired connect => .wired { request, converter, transport := connect }
  | .lossy => .lossy request

/-- A maker that is asked adds one call behind all others. -/
theorem run_newCall (maker : CallMaker) (request : Request) (converter : ResponseConverter σ)
    (e : Engine σ κ) :
    (newCall maker request converter).run e =
      (.made e.calls.length,
        { e with calls := e.calls ++ [freshCall maker request converter] }) := by
  cases maker with
  | scripted number respond => rfl
  | wired connect => rfl
  | lossy => rfl

theorem maker?_freshCall (maker : CallMaker) (request : Request) (converter : ResponseConverter σ) :
    (freshCall maker request converter : MadeCall σ κ).maker? = maker.number? := by
  cases maker with
  | scripted number respond => rfl
  | wired connect => rfl
  | lossy => rfl

end Engine

end RemoteCall
