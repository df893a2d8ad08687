import RemoteCall.Proofs.MadePlans
import RemoteCall.Proofs.Makers

/-!
Invoking methods, directly or by a future.

To carry a method out (`carryOut`) is to look it up, to make its request and a call for it, and to
adapt the call; `Course` tells where that ends. A direct method is carried out when it is invoked
(`run_invoke_of_direct`). The invocation of a method that is awaited only adds a future
(`run_invoke_of_suspend`), whose first poll carries the method out and hands over what came of it
(`run_firstPoll`). The maker of a client's calls is asked for one call each time, and only when
there is a request (`Course.asks`, `Course.asked_iff`). What kind of future it is was decided from
the declaration; no plan disagrees (`Client.Made.kind`). `invokes_as_declared` puts this together.
-/

namespace RemoteCall

variable {σ κ : Type}

namespace Engine

variable {hooks : Hooks σ κ} {h : ClientHandle σ κ} {id : MethodId} {args : Arguments}
  {e : Engine σ κ}

theorem Spares.registryOf {e' : Engine σ κ} (spares : Spares e e') :
    e'.registryOf h = e.registryOf h := by
  rw [Engine.registryOf, Engine.registryOf, spares.registries]

/-! ### Calling a plan -/

theorem run_bind_of {α β : Type} {m : EngineM σ κ α} {f : α → EngineM σ κ β} {a : α}
    {e e' : Engine σ κ} (ran : m.run e = (a, e')) : (m >>= f).run e = (f a).run e' := by
  rw [StateT.run_bind, ran]
  rfl

/-- The engine after the maker of a plan was asked for a call. -/
def withCall (e : Engine σ κ) (plan : Plan σ κ) (request : Request) (s : σ) : Engine σ κ :=
  { e with
    plugins := s
    calls := e.calls ++ [freshCall plan.calls request plan.responseConverter] }

/-- Looks a method up, makes its request and a call for it, and adapts the call. -/
def carryOut (hooks : Hooks σ κ) (h : ClientHandle σ κ) (id : MethodId) (args : Arguments) :
    EngineM σ κ (Except Error (Plan σ κ × Payload)) := do
  match ← resolve h id with
  | .error error => return .error error
  | .ok plan => return (← callMethod hooks plan args).map (plan, ·)

/-- The course of carrying a method out, by the step at which it ends. The first index is the call
that the maker was asked for. -/
inductive Course (hooks : Hooks σ κ) (h : ClientHandle σ κ) (id : MethodId) (args : Arguments)
    (e : Engine σ κ) :
    Option CallRef → Except Error (Plan σ κ × Payload) → Engine σ κ → Prop where
  | unresolved {error : Error} {e₁ : Engine σ κ}
      (refused : (resolve h id).run e = (.error error, e₁)) :
      Course hooks h id args e none (.error error) e₁
  | unmade {plan : Plan σ κ} {e₁ : Engine σ κ} {fault : Fault} {s : σ}
      (resolved : (resolve h id).run e = (.ok plan, e₁))
      (refused : (plan.request plan.baseUrl args).run e₁.plugins = (.error fault, s)) :
      Course hooks h id args e none (.error (.request plan.method fault)) { e₁ with plugins := s }
  | unadapted {plan : Plan σ κ} {e₁ : Engine σ κ} {request : Request} {s : σ} {fault : Fault}
      {e' : Engine σ κ} (resolved : (resolve h id).run e = (.ok plan, e₁))
      (requested : (plan.request plan.baseUrl args).run e₁.plugins = (.ok request, s))
      (refused : (perform (settleAll hooks) (plan.callAdapter.adapt (.made e₁.calls.length))).run
        (e₁.withCall plan request s) = (.error fault, e')) :
      Course hooks h id args e (some (.made e₁.calls.length)) (.error (.adapt plan.method fault)) e'
  | adapted {plan : Plan σ κ} {e₁ : Engine σ κ} {request : Request} {s : σ} {payload : Payload}
      {e' : Engine σ κ} (resolved : (resolve h id).run e = (.ok plan, e₁))
      (requested : (plan.request plan.baseUrl args).run e₁.plugins = (.ok request, s))
      (adapts : (perform (settleAll hooks) (plan.callAdapter.adapt (.made e₁.calls.length))).run
        (e₁.withCall plan request s) = (.ok payload, e')) :
      Course hooks h id args e (some (.made e₁.calls.length)) (.ok (plan, payload)) e'

theorem run_newMethodCall (plan : Plan σ κ) (args : Arguments) (e : Engine σ κ) :
    (newMethodCall plan args).run e =
      match (plan.request plan.baseUrl args).run e.plugins with
      | (.error fault, s) => (.error (.request plan.method fault), { e with plugins := s })
      | (.ok request, s) => (.ok (.made e.calls.length), e.withCall plan request s) := by
  have asked : (onPlugins (plan.request plan.baseUrl args)).run e =
      (((plan.request plan.baseUrl args).run e.plugins).1,
        { e with plugins := ((plan.request plan.baseUrl args).run e.plugins).2 }) := rfl
  rw [newMethodCall, StateT.run_bind, asked]
  rcases (plan.request plan.baseUrl args).run e.plugins with ⟨fault | request, s⟩
  · rfl
  · exact congrArg (fun made => (Except.ok made.1, made.2))
      (run_newCall plan.calls request plan.responseConverter { e with plugins := s })

theorem run_adaptCall (hooks : Hooks σ κ) (plan : Plan σ κ) (call : CallRef) (e : Engine σ κ) :
    (adaptCall hooks plan call).run e =
      match (perform (settleAll hooks) (plan.callAdapter.adapt call)).run e with
      | (.error fault, e') => (.error (.adapt plan.method fault), e')
      | (.ok payload, e') => (.ok payload, e') := by
  rw [adaptCall, StateT.run_bind]
  rcases (perform (settleAll hooks) (plan.callAdapter.adapt call)).run e with ⟨fault | payload, e'⟩
  · rfl
  · rfl

theorem run_callMethod (hooks : Hooks σ κ) (plan : Plan σ κ) (args : Arguments) (e : Engine σ κ) :
    (callMethod hooks plan args).run e =
      match (plan.request plan.baseUrl args).run e.plugins with
      | (.error fault, s) => (.error (.request plan.method fault), { e with plugins := s })
      | (.ok request, s) =>
        (adaptCall hooks plan (.made e.calls.length)).run (e.withCall plan request s) := by
  rw [callMethod, StateT.run_bind, run_newMethodCall]
  rcases (plan.request plan.baseUrl args).run e.plugins with ⟨fault | request, s⟩
  · rfl
  · rfl

theorem run_carryOut (hooks : Hooks σ κ) (h : ClientHandle σ κ) (id : MethodId) (args : Arguments)
    (e : Engine σ κ) :
    (carryOut hooks h id args).run e =
      match (resolve h id).run e with
      | (.error error, e₁) => (.error error, e₁)
      | (.ok plan, e₁) =>
        (((callMethod hooks plan args).run e₁).1.map (plan, ·),
          ((callMethod hooks plan args).run e₁).2) := by
  rw [carryOut, StateT.run_bind]
  rcases (resolve h id).run e with ⟨error | plan, e₁⟩
  · rfl
  · rfl

theorem course_carryOut (hooks : Hooks σ κ) (h : ClientHandle σ κ) (id : MethodId)
    (args : Arguments) (e : Engine σ κ) :
    ∃ made, Course hooks h id args e made ((carryOut hooks h id args).run e).1
      ((carryOut hooks h id args).run e).2 := by
  rw [run_carryOut]
  rcases resolved : (resolve h id).run e with ⟨error | plan, e₁⟩
  · exact ⟨_, .unresolved resolved⟩
  · simp only [run_callMethod]
    rcases requested : (plan.request plan.baseUrl args).run e₁.plugins with ⟨fault | request, s⟩
    · exact ⟨_, .unmade resolved requested⟩
    · simp only [run_adaptCall]
      rcases adapted : (perform (settleAll hooks)
        (plan.callAdapter.adapt (.made e₁.calls.length))).run (e₁.withCall plan request s)
        with ⟨fault | payload, e'⟩
      · exact ⟨_, .unadapted resolved requested adapted⟩
      · exact ⟨_, .adapted resolved requested adapted⟩

/-! ### What the maker is asked for -/

/-- What a maker was asked for between two states: nothing, or one new call. All other calls that
were added have no maker. -/
inductive Asks (maker : CallMaker) (e e' : Engine σ κ) : Option CallRef → Prop where
  | nothing (copies : ∃ n, e'.makers = e.makers ++ List.replicate n none) : Asks maker e e' none
  | oneCall (copies : ∃ n, e'.makers = e.makers ++ maker.number? :: List.replicate n none) :
      Asks maker e e' (some (.made e.calls.length))

theorem Asks.of_calls_eq {maker : CallMaker} {e e₁ e' : Engine σ κ} {made : Option CallRef}
    (same : e₁.calls = e.calls) (asks : Asks maker e₁ e' made) : Asks maker e e' made := by
  have makers : e₁.makers = e.makers := congrArg (List.map MadeCall.maker?) same
  cases asks with
  | nothing copies => exact .nothing (makers ▸ copies)
  | oneCall copies =>
      rw [same]
      exact .oneCall (makers ▸ copies)

theorem Asks.then_spares {maker : CallMaker} {e e' e'' : Engine σ κ} {made : Option CallRef}
    (asks : Asks maker e e' made) (spares : Spares e' e'') : Asks maker e e'' made := by
  obtain ⟨n, after⟩ := spares.copies
  cases asks with
  | nothing copies =>
      obtain ⟨m, before⟩ := copies
      refine .nothing ⟨m + n, ?_⟩
      rw [after, before, List.append_assoc, List.replicate_append_replicate]
  | oneCall copies =>
      obtain ⟨m, before⟩ := copies
      refine .oneCall ⟨m + n, ?_⟩
      rw [after, before, List.append_assoc, List.cons_append, List.replicate_append_replicate]

theorem asks_withCall (e : Engine σ κ) (plan : Plan σ κ) (request : Request) (s : σ) :
    Asks plan.calls e (e.withCall plan request s) (some (.made e.calls.length)) := by
  refine .oneCall ⟨0, ?_⟩
  rw [makers, withCall, List.map_append, List.map_singleton, maker?_freshCall]
  rfl

/-- An adapter asks no maker. -/
theorem spares_of_perform {α : Type} {action : Action σ κ α} {a : α} {e' : Engine σ κ}
    (ran : (perform (settleAll hooks) action).run e = (a, e')) : Spares e e' := by
  have spares := sparing_perform (sparing_settleAll hooks) action e
  rwa [ran] at spares

/-- To look a method up makes no call. -/
theorem calls_resolve {result : Except Error (Plan σ κ)} {e₁ : Engine σ κ}
    (ran : (resolve h id).run e = (result, e₁)) : e₁.calls = e.calls := by
  rw [run_resolve] at ran
  cases ran
  rfl

/-- The maker is asked once if there is a request, and never otherwise. -/
theorem Course.asked_iff {made : Option CallRef} {result : Except Error (Plan σ κ × Payload)}
    {e' : Engine σ κ} (course : Course hooks h id args e made result e') :
    made.isSome ↔ ∃ plan e₁ request s, (resolve h id).run e = (.ok plan, e₁) ∧
      (plan.request plan.baseUrl args).run e₁.plugins = (.ok request, s) := by
  cases course with
  | unresolved refused =>
      constructor
      · exact nofun
      · rintro ⟨plan, e₁, request, s, resolved, _⟩
        cases refused.symm.trans resolved
  | unmade resolved refused =>
      constructor
      · exact nofun
      · rintro ⟨plan, e₁, request, s, resolved', requested⟩
        cases resolved.symm.trans resolved'
        cases refused.symm.trans requested
  | unadapted resolved requested refused =>
      exact ⟨fun _ => ⟨_, _, _, _, resolved, requested⟩, fun _ => rfl⟩
  | adapted resolved requested adapts =>
      exact ⟨fun _ => ⟨_, _, _, _, resolved, requested⟩, fun _ => rfl⟩

theorem Course.asks {made : Option CallRef} {result : Except Error (Plan σ κ × Payload)}
    {e' : Engine σ κ} (course : Course hooks h id args e made result e')
    (ofClient : ∀ plan e₁, (resolve h id).run e = (.ok plan, e₁) → plan.calls = h.client.calls) :
    Asks h.client.calls e e' made := by
  cases course with
  | unresolved refused =>
      exact .of_calls_eq (calls_resolve refused) (.nothing ⟨0, (List.append_nil _).symm⟩)
  | unmade resolved refused =>
      exact .of_calls_eq (calls_resolve resolved) (.nothing ⟨0, (List.append_nil _).symm⟩)
  | @unadapted plan e₁ request s fault e' resolved requested refused =>
      have made := asks_withCall e₁ plan request s
      rw [ofClient plan e₁ resolved] at made
      exact .of_calls_eq (calls_resolve resolved) (made.then_spares (spares_of_perform refused))
  | @adapted plan e₁ request s payload e' resolved requested adapts =>
      have made := asks_withCall e₁ plan request s
      rw [ofClient plan e₁ resolved] at made
      exact .of_calls_eq (calls_resolve resolved) (made.then_spares (spares_of_perform adapts))

/-- Carrying a method out changes the registry by its look-up only. -/
theorem Course.later {made : Option CallRef} {result : Except Error (Plan σ κ × Payload)}
    {e' : Engine σ κ} (course : Course hooks h id args e made result e') :
    Registry.Later h.client.Made (e.registryOf h) (e'.registryOf h) := by
  cases course with
  | unresolved refused => exact later_resolve refused
  | unmade resolved refused =>
      have looked := later_resolve resolved
      exact looked
  | unadapted resolved requested refused =>
      have looked := later_resolve resolved
      rw [(spares_of_perform refused).registryOf]
      exact looked
  | adapted resolved requested adapts =>
      have looked := later_resolve resolved
      rw [(spares_of_perform adapts).registryOf]
      exact looked

/-! ### Polling -/

/-- What a future is waiting for. -/
def purposeOf (plan : Plan σ κ) (envelope : Bool) : Purpose :=
  if envelope then .envelope else .value plan.method (plan.variant = .suspendForValue true)

/-- What is awaited is what the declaration says. -/
theorem purposeOf_of_made {entry : MethodEntry σ} {plan : Plan σ κ}
    (made : h.client.Made entry plan) (suspend : entry.record.isSuspend = true) :
    purposeOf plan entry.record.awaitsEnvelope =
      if entry.record.awaitsEnvelope then .envelope
      else .value entry.qualified entry.record.nullable := by
  have variant := made.variant_eq suspend
  obtain ⟨_, _, _, rfl⟩ := made.eq_planOf
  rw [purposeOf, variant]
  cases entry.record.awaitsEnvelope with
  | true => rfl
  | false => simp [planOf]

/-- What the first poll does with the outcome: a call is awaited, anything else ends the future. -/
def handOver (hooks : Hooks σ κ) (h : ClientHandle σ κ) (envelope : Bool) (future : Nat) :
    Except Error (Plan σ κ × Payload) → EngineM σ κ (Option (Except Error Awaited))
  | .error error => do
    forget future
    return some (.error error)
  | .ok (plan, payload) =>
    match payload.call? with
    | none => do
      forget future
      return some (.error (notACall plan.method))
    | some call => do
      let purpose := purposeOf plan envelope
      modify fun e => { e with futures := e.futures.set future (.bridged h call purpose {}) }
      pollBridge hooks future call purpose

theorem run_callToAwait (hooks : Hooks σ κ) (plan : Plan σ κ) (args : Arguments) (e : Engine σ κ) :
    (callToAwait hooks plan args).run e =
      match (callMethod hooks plan args).run e with
      | (.error error, e') => (.error error, e')
      | (.ok payload, e') => (payload.call?.elim (.error (notACall plan.method)) .ok, e') := by
  rw [callToAwait, StateT.run_bind]
  rcases (callMethod hooks plan args).run e with ⟨error | payload, e'⟩
  · rfl
  · rfl

theorem run_startPlanned (hooks : Hooks σ κ) (future : Nat) (h : ClientHandle σ κ) (id : MethodId)
    (args : Arguments) (envelope : Bool) (e : Engine σ κ) :
    (startPlanned hooks future h id args envelope).run e =
      match (resolve h id).run e with
      | (.error error, e₁) => (.error error, e₁)
      | (.ok plan, e₁) =>
        match (callToAwait hooks plan args).run e₁ with
        | (.error error, e') => (.error error, e')
        | (.ok call, e') => (.ok (call, purposeOf plan envelope), { e' with
            futures := e'.futures.set future (.bridged h call (purposeOf plan envelope) {}) }) := by
  rcases resolved : (resolve h id).run e with ⟨error | plan, e₁⟩
  · rw [startPlanned, run_bind_of resolved]
    rfl
  · rw [startPlanned, run_bind_of resolved]
    rcases called : (callToAwait hooks plan args).run e₁ with ⟨error | call, e'⟩
    · simp only [run_bind_of called, called]
      rfl
    · simp only [run_bind_of called, called]
      rfl

theorem run_pollFuture_of_planned {future : Nat} {envelope : Bool}
    (planned : e.futures[future]? = some (.planned h id args envelope)) :
    (pollFuture hooks future).run e =
      match (startPlanned hooks future h id args envelope).run e with
      | (.error error, e') => (forget future >>= fun _ => return some (.error error)).run e'
      | (.ok (call, purpose), e') => (pollBridge hooks future call purpose).run e' := by
  rw [pollFuture, StateT.run_bind, StateT.run_get, pure_bind]
  simp only [planned]
  rw [StateT.run_bind]
  rcases (startPlanned hooks future h id args envelope).run e with ⟨error | ⟨call, purpose⟩, e'⟩
  · rfl
  · rfl

/-- The first poll carries the method out. -/
theorem run_firstPoll (hooks : Hooks σ κ) {future : Nat} {envelope : Bool}
    (planned : e.futures[future]? = some (.planned h id args envelope)) :
    (pollFuture hooks future).run e =
      (handOver hooks h envelope future ((carryOut hooks h id args).run e).1).run
        ((carryOut hooks h id args).run e).2 := by
  rw [run_pollFuture_of_planned planned, run_startPlanned, run_carryOut]
  rcases (resolve h id).run e with ⟨error | plan, e₁⟩
  · rfl
  · simp only [run_callToAwait]
    rcases (callMethod hooks plan args).run e₁ with ⟨error | payload, e'⟩
    · rfl
    · simp only [Except.map, handOver]
      cases payload.call? with
      | none => rfl
      | some call => rfl

/-- The first poll is over, or there is none. -/
def Begun (stage : FutureStage σ κ) : Prop :=
  ∀ h id args envelope, stage ≠ .planned h id args envelope

theorem begun_ended : Begun (.ended : FutureStage σ κ) := fun _ _ _ _ same => by cases same

theorem begun_bridged (h : Option (ClientHandle σ κ)) (call : CallRef) (purpose : Purpose)
    (await : Await) : Begun (.bridged h call purpose await) :=
  fun _ _ _ _ same => by cases same

/-- The future does not wait for its first poll. -/
def Started (e : Engine σ κ) (future : Nat) : Prop :=
  ∀ h id args envelope, e.futures[future]? ≠ some (.planned h id args envelope)

theorem Spares.started {e' : Engine σ κ} {future : Nat} (spares : Spares e e')
    (started : e.Started future) : e'.Started future :=
  fun h id args envelope there => started h id args envelope (spares.planned there)

theorem started_set {stage : FutureStage σ κ} (e : Engine σ κ) (future : Nat)
    (begun : Begun stage) :
    Started { e with futures := e.futures.set future stage } future := by
  intro h id args envelope there
  rw [List.getElem?_set] at there
  simp only [if_true] at there
  split at there
  · exact begun h id args envelope (Option.some.inj there)
  · cases there

theorem spares_set {stage : FutureStage σ κ} (e : Engine σ κ) (future : Nat)
    (begun : Begun stage) : Spares e { e with futures := e.futures.set future stage } := by
  refine .of_futures rfl (fun {other h id args envelope} there => ?_) rfl
  by_cases same : future = other
  · subst same
    exact absurd there (started_set e future begun h id args envelope)
  · rwa [List.getElem?_set_ne same] at there

/-- Once the method is carried out, the maker is not asked again and the future has started. -/
theorem handOver_spares (hooks : Hooks σ κ) (h : ClientHandle σ κ) (envelope : Bool) (future : Nat)
    (result : Except Error (Plan σ κ × Payload)) (e : Engine σ κ) :
    Spares e ((handOver hooks h envelope future result).run e).2 ∧
      ((handOver hooks h envelope future result).run e).2.Started future := by
  have ended : Spares e { e with futures := e.futures.set future .ended } ∧
      Started { e with futures := e.futures.set future .ended } future :=
    ⟨spares_set e future begun_ended, started_set e future begun_ended⟩
  rcases result with error | ⟨plan, payload⟩
  · exact ended
  · rw [handOver]
    cases payload.call? with
    | none => exact ended
    | some call =>
        have begun := begun_bridged (some h) call (purposeOf plan envelope) {}
        have polled := sparing_pollBridge hooks future call (purposeOf plan envelope)
          { e with futures :=
              e.futures.set future (.bridged h call (purposeOf plan envelope) {}) }
        exact ⟨(spares_set e future begun).trans polled,
          polled.started (started_set e future begun)⟩

/-- Later polls look for the outcome only. -/
theorem spares_pollFuture (hooks : Hooks σ κ) {future : Nat} (started : e.Started future) :
    Spares e ((pollFuture hooks future).run e).2 := by
  rw [pollFuture, StateT.run_bind, StateT.run_get, pure_bind]
  rcases there : e.futures[future]? with _ | ⟨h, id, args, envelope⟩ | ⟨_, call, purpose, await⟩ | _
  · exact .of_same rfl rfl rfl
  · exact absurd there (started h id args envelope)
  · exact sparing_pollBridge hooks future call purpose e
  · exact .of_same rfl rfl rfl

/-! ### Invoking -/

/-- What is true each time a method with the declaration `entry` is carried out. -/
structure CarriesOut (hooks : Hooks σ κ) (h : ClientHandle σ κ) (id : MethodId) (args : Arguments)
    (entry : MethodEntry σ) (e : Engine σ κ) (made : Option CallRef)
    (result : Except Error (Plan σ κ × Payload)) (e' : Engine σ κ) : Prop where
  course : Course hooks h id args e made result e'
  /-- A plan that is looked up was made for the declaration. -/
  built : ∀ {plan e₁}, (resolve h id).run e = (.ok plan, e₁) → h.client.Made entry plan
  /-- The maker is asked for one call if the method is found and its request made, else for none. -/
  asks : Asks h.client.calls e e' made
  asked : made.isSome ↔ ∃ plan e₁ request s, (resolve h id).run e = (.ok plan, e₁) ∧
    (plan.request plan.baseUrl args).run e₁.plugins = (.ok request, s)
  registry : Registry.Later h.client.Made (e.registryOf h) (e'.registryOf h)

theorem carriesOut (hooks : Hooks σ κ) (args : Arguments) {entry : MethodEntry σ}
    (sound : Registry.Sound h.client.Made (e.registryOf h))
    (declared : ∀ entry', (e.registryOf h).entry id = .ok entry' → entry' = entry) :
    ∃ made, CarriesOut hooks h id args entry e made ((carryOut hooks h id args).run e).1
      ((carryOut hooks h id args).run e).2 := by
  have built {plan : Plan σ κ} {e₁ : Engine σ κ}
      (resolved : (resolve h id).run e = (.ok plan, e₁)) : h.client.Made entry plan := by
    obtain ⟨entry', there, made⟩ := made_of_resolve sound resolved
    exact declared entry' there ▸ made
  obtain ⟨made, course⟩ := course_carryOut hooks h id args e
  refine ⟨made, course, built, course.asks fun plan e₁ resolved => ?_, course.asked_iff,
    course.later⟩
  obtain ⟨_, _, _, rfl⟩ := (built resolved).eq_planOf
  rfl

/-- What is true of the invocation of a method that is awaited. -/
structure InvokesLazily (hooks : Hooks σ κ) (h : ClientHandle σ κ) (id : MethodId)
    (args : Arguments) (entry : MethodEntry σ) (e : Engine σ κ) : Prop where
  /-- The invocation adds a future and changes nothing else. -/
  atOnce : (invoke hooks h id args).run e =
    (.ok (if entry.record.awaitsEnvelope then .envelope e.futures.length
        else .value e.futures.length),
      { e with futures := e.futures ++ [.planned h id args entry.record.awaitsEnvelope] })
  /-- The kind of the future is that of every plan for the declaration. -/
  kind : ∀ {plan}, h.client.Made entry plan →
    (entry.record.awaitsEnvelope = true ↔ plan.variant = .suspendForEnvelope) ∧
      (entry.record.awaitsEnvelope = false ↔ ∃ nullable, plan.variant = .suspendForValue nullable)
  purpose : ∀ {plan}, h.client.Made entry plan →
    purposeOf plan entry.record.awaitsEnvelope =
      if entry.record.awaitsEnvelope then .envelope
      else .value entry.qualified entry.record.nullable
  /-- The first poll carries the method out, with a call of its own, and then waits for what the
  adapter has made of that. -/
  firstPoll : ∀ {e' : Engine σ κ} {future : Nat},
    Registry.Later h.client.Made (e.registryOf h) (e'.registryOf h) →
    e'.futures[future]? = some (.planned h id args entry.record.awaitsEnvelope) →
    ∃ made result e₁, CarriesOut hooks h id args entry e' made result e₁ ∧
      (pollFuture hooks future).run e' =
        (handOver hooks h entry.record.awaitsEnvelope future result).run e₁ ∧
      Asks h.client.calls e' ((pollFuture hooks future).run e').2 made ∧
      Registry.Later h.client.Made (e.registryOf h)
        (((pollFuture hooks future).run e').2.registryOf h) ∧
      ((pollFuture hooks future).run e').2.Started future
  /-- No later poll asks the maker. -/
  laterPolls : ∀ {e' : Engine σ κ} {future : Nat}, e'.Started future →
    Spares e' ((pollFuture hooks future).run e').2

theorem run_invoke_of_suspend {entry : MethodEntry σ}
    (there : (e.registryOf h).entry id = .ok entry) (suspend : entry.record.isSuspend = true) :
    (invoke hooks h id args).run e =
      (.ok (if entry.record.awaitsEnvelope then .envelope e.futures.length
          else .value e.futures.length),
        { e with futures := e.futures ++ [.planned h id args entry.record.awaitsEnvelope] }) := by
  rw [invoke, StateT.run_bind, StateT.run_get, pure_bind]
  simp only [there, suspend, if_true]
  rfl

theorem run_invoke_of_direct {entry : MethodEntry σ}
    (there : (e.registryOf h).entry id = .ok entry) (direct : entry.record.isSuspend = false) :
    (invoke hooks h id args).run e =
      (((carryOut hooks h id args).run e).1.map (.direct ·.2),
        ((carryOut hooks h id args).run e).2) := by
  rw [invoke, StateT.run_bind, StateT.run_get, pure_bind, run_carryOut]
  simp only [there, direct, Bool.false_eq_true, if_false]
  rcases resolved : (resolve h id).run e with ⟨error | plan, e₁⟩
  · rw [run_bind_of resolved]
    rfl
  · rw [run_bind_of resolved]
    rcases called : (callMethod hooks plan args).run e₁ with ⟨error | payload, e'⟩
    · simp only [run_bind_of called, called]
      rfl
    · simp only [run_bind_of called, called]
      rfl

theorem invokesLazily {entry : MethodEntry σ}
    (sound : Registry.Sound h.client.Made (e.registryOf h))
    (there : (e.registryOf h).entry id = .ok entry) (suspend : entry.record.isSuspend = true) :
    InvokesLazily hooks h id args entry e where
  atOnce := run_invoke_of_suspend there suspend
  kind made := made.kind suspend
  purpose made := purposeOf_of_made made suspend
  firstPoll {e' future} later planned := by
    have sound' := sound.later later
    obtain ⟨made, carried⟩ := carriesOut hooks args sound' fun entry' now =>
      later.entry_eq sound there now
    have polled := run_firstPoll hooks planned
    obtain ⟨spares, started⟩ := handOver_spares hooks h entry.record.awaitsEnvelope future
      ((carryOut hooks h id args).run e').1 ((carryOut hooks h id args).run e').2
    refine ⟨made, _, _, carried, polled, ?_, ?_, ?_⟩
    · rw [polled]
      exact carried.asks.then_spares spares
    · rw [polled, spares.registryOf]
      exact later.trans carried.registry
    · rw [polled]
      exact started
  laterPolls started := spares_pollFuture hooks started

/-- A method that is awaited is invoked lazily; any other is carried out at once. -/
theorem invokes_as_declared (hooks : Hooks σ κ) (args : Arguments) {entry : MethodEntry σ}
    (registry : Registry.Later h.client.Made .empty (e.registryOf h))
    (there : (e.registryOf h).entry id = .ok entry) :
    (entry.record.isSuspend = true → InvokesLazily hooks h id args entry e) ∧
      (entry.record.isSuspend = false →
        ∃ made result e', CarriesOut hooks h id args entry e made result e' ∧
          (invoke hooks h id args).run e = (result.map (.direct ·.2), e')) := by
  have sound := Registry.Sound.empty.later registry
  constructor
  · exact invokesLazily sound there
  · intro direct
    obtain ⟨made, carried⟩ := carriesOut hooks args sound fun entry' now =>
      Except.ok.inj (now.symm.trans there)
    exact ⟨made, _, _, carried, run_invoke_of_direct there direct⟩

/-- Callbacks and jobs that do nothing. -/
def idleHooks : Hooks Unit Unit where
  deliver _ _ _ := .done ()
  lose _ := .done ()
  run _ := .done ()

/-- The declaration of a method that no client can build. -/
def openMethod : MethodRecord Unit := emptyRequestMethod "any" (.suspend (.unresolved "T"))

/-- A client that does not validate. -/
def trusting : ClientHandle Unit Unit := ⟨localClient .empty false, 0⟩

/-- Its engine, with that method registered. -/
def openEngine : Engine Unit Unit := ((register trusting ⟨"Api", [openMethod]⟩).run newEngine).2

/-- Even a method that cannot be built is invoked; its future brings the failure. -/
theorem invokes_as_declared_malformed :
    InvokesLazily idleHooks trusting ⟨1⟩ [] ⟨"Api.any", openMethod⟩ openEngine ∧
      ((invoke idleHooks trusting ⟨1⟩ []).run openEngine).1 = .ok (.value 0) ∧
      ((pollFuture idleHooks 0).run ((invoke idleHooks trusting ⟨1⟩ []).run openEngine).2).1 =
        some (.error (.configuration (some "Api.any")
          "Awaited type must not include a type variable or wildcard: T")) := by
  have registered : Registry.Later trusting.client.Made .empty (openEngine.registryOf trusting) :=
    later_register (e := newEngine) Nat.zero_lt_one .empty (by decide)
  exact ⟨(invokes_as_declared idleHooks [] registered rfl).1 rfl, rfl, rfl⟩

end Engine

end RemoteCall
