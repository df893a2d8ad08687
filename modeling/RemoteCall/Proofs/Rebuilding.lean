import RemoteCall.Client.Setup
import RemoteCall.Proofs.EagerRegistration

/-!
Clients made from other clients.

A client that settings make is `Client.Complete`: its chains are the user's with the factories of
every client put in, the built-in converters in front and the default adapter behind. Its settings
leave those out, so they make the same client again (`Complete.build_settings`), and what is added
on the way lands behind what the user gave before (`Client.Grows`). `copies_losslessly` sums this
up; it also says that the new client has an empty registry of its own.
-/

namespace RemoteCall

variable {σ κ α β : Type}

/-! ### Things said about a client -/

/-- The last thing of a kind that is said, if any is. -/
def lastSaid (said? : Setting σ κ → Option α) (steps : List (Setting σ κ)) : Option α :=
  (steps.filterMap said?).getLast?

theorem lastSaid_cons (said? : Setting σ κ → Option α) (step : Setting σ κ)
    (steps : List (Setting σ κ)) :
    lastSaid said? (step :: steps) = (lastSaid said? steps).or (said? step) := by
  unfold lastSaid
  cases said : said? step with
  | none => rw [List.filterMap_cons_none said, Option.or_none]
  | some a =>
      rw [List.filterMap_cons_some said, List.getLast?_cons]
      cases (steps.filterMap said?).getLast? with
      | none => rfl
      | some b => rfl

theorem lastSaid_append (said? : Setting σ κ → Option α) (steps more : List (Setting σ κ)) :
    lastSaid said? (steps ++ more) = (lastSaid said? more).or (lastSaid said? steps) := by
  rw [lastSaid, List.filterMap_append, List.getLast?_append]
  rfl

namespace ClientSettings

/-- Where every setting of a kind replaces what was there, the last one counts. -/
theorem field_setAll {field : ClientSettings σ κ → β} {said? : Setting σ κ → Option α}
    {put : α → β} (replaces : ∀ s step, field (s.set step) = ((said? step).map put).getD (field s))
    (s : ClientSettings σ κ) (steps : List (Setting σ κ)) :
    field (s.setAll steps) = ((lastSaid said? steps).map put).getD (field s) := by
  induction steps generalizing s with
  | nil => rfl
  | cons step steps ih =>
      have rest : field (s.setAll (step :: steps)) =
          ((lastSaid said? steps).map put).getD (field (s.set step)) := ih (s.set step)
      rw [rest, lastSaid_cons, replaces]
      cases lastSaid said? steps with
      | none => rfl
      | some a => rfl

/-- Where every setting of a kind adds an entry at the end, all are kept in order. -/
theorem chain_setAll {chain : ClientSettings σ κ → Chain (Factory σ κ)}
    {added? : Setting σ κ → Option (Entry (Factory σ κ))}
    (adds : ∀ s step, (chain (s.set step)).entries = (chain s).entries ++ (added? step).toList)
    (s : ClientSettings σ κ) (steps : List (Setting σ κ)) :
    (chain (s.setAll steps)).entries = (chain s).entries ++ steps.filterMap added? := by
  induction steps generalizing s with
  | nil => exact (List.append_nil _).symm
  | cons step steps ih =>
      have rest : (chain (s.setAll (step :: steps))).entries =
          (chain (s.set step)).entries ++ steps.filterMap added? := ih (s.set step)
      rw [rest, adds, List.append_assoc]
      congr 1
      cases said : added? step with
      | none => rw [List.filterMap_cons_none said, Option.toList_none, List.nil_append]
      | some e => rw [List.filterMap_cons_some said, Option.toList_some, List.singleton_append]

variable (s : ClientSettings σ κ) (steps : List (Setting σ κ))

theorem converters_setAll : (s.setAll steps).converters.entries =
    s.converters.entries ++ steps.filterMap Setting.converter? := by
  apply chain_setAll
  intro s step
  cases step with
  | converter name factory => rfl
  | _ => exact (List.append_nil _).symm

theorem adapters_setAll : (s.setAll steps).adapters.entries =
    s.adapters.entries ++ steps.filterMap Setting.adapter? := by
  apply chain_setAll
  intro s step
  cases step with
  | adapter name factory => rfl
  | _ => exact (List.append_nil _).symm

theorem baseUrl_setAll : (s.setAll steps).baseUrl =
    ((lastSaid Setting.baseUrl? steps).map some).getD s.baseUrl := by
  apply field_setAll
  intro s step
  cases step with
  | _ => rfl

theorem calls_setAll : (s.setAll steps).calls =
    ((lastSaid Setting.calls? steps).map some).getD s.calls := by
  apply field_setAll
  intro s step
  cases step with
  | _ => rfl

theorem executor_setAll : (s.setAll steps).executor =
    ((lastSaid Setting.executor? steps).map some).getD s.executor := by
  apply field_setAll
  intro s step
  cases step with
  | _ => rfl

theorem eager_setAll : (s.setAll steps).eager =
    ((lastSaid Setting.eager? steps).map id).getD s.eager := by
  apply field_setAll
  intro s step
  cases step with
  | _ => rfl

end ClientSettings
/-! ### Making a client, and making it again -/

namespace Client

/-- The chains of the client are those that the user gave, with the factories of every client. -/
structure Complete (c : Client σ κ) : Prop where
  baseUrl : c.baseUrl.toList.getLast? = some '/'
  converters : c.converters = withBuiltIns c.userConverters
  adapters : c.adapters = withDefault c.userAdapters c.executor

end Client

/-- The client is what the settings make. -/
structure ClientSettings.Makes (s : ClientSettings σ κ) (c : Client σ κ) : Prop where
  complete : c.Complete
  baseUrl : s.baseUrl = some c.baseUrl
  calls : s.calls = some c.calls
  converters : s.converters = c.userConverters
  adapters : s.adapters = c.userAdapters
  executor : s.executor = c.executor
  eager : s.eager = c.eager

theorem ClientSettings.build_eq_ok_iff {s : ClientSettings σ κ} {c : Client σ κ} :
    s.build = .ok c ↔ s.Makes c := by
  constructor
  · intro built
    rw [build] at built
    cases baseUrl : s.baseUrl with
    | none =>
        rw [baseUrl] at built
        cases built
    | some url =>
        simp only [baseUrl] at built
        by_cases closed : url.toList.getLast? = some '/'
        · rw [if_neg (not_not_intro closed)] at built
          cases calls : s.calls with
          | none =>
              rw [calls] at built
              cases built
          | some maker =>
              rw [calls] at built
              cases built
              exact ⟨⟨closed, rfl, rfl⟩, baseUrl, calls, rfl, rfl, rfl, rfl⟩
        · rw [if_pos closed] at built
          cases built
  · intro makes
    rw [build, makes.baseUrl]
    simp only
    rw [if_neg (not_not_intro makes.complete.baseUrl), makes.calls]
    simp only
    rw [makes.converters, makes.adapters, makes.executor, makes.eager,
      ← makes.complete.converters, ← makes.complete.adapters]

namespace Client

variable {c c' : Client σ κ}

theorem Complete.build_settings (complete : c.Complete) : c.settings.build = .ok c :=
  ClientSettings.build_eq_ok_iff.mpr ⟨complete, rfl, rfl, rfl, rfl, rfl, rfl⟩

theorem Complete.copied_eq (complete : c.Complete) (n : Nat) : c.copied n = .ok c := by
  induction n with
  | zero => rfl
  | succ n ih =>
      rw [copied, ih]
      exact complete.build_settings

/-- The second client is the first one with some things said anew. -/
structure Grows (c : Client σ κ) (steps : List (Setting σ κ)) (c' : Client σ κ) : Prop where
  converters : c'.userConverters.entries =
    c.userConverters.entries ++ steps.filterMap Setting.converter?
  adapters : c'.userAdapters.entries = c.userAdapters.entries ++ steps.filterMap Setting.adapter?
  baseUrl : c'.baseUrl = (lastSaid Setting.baseUrl? steps).getD c.baseUrl
  calls : c'.calls = (lastSaid Setting.calls? steps).getD c.calls
  executor : c'.executor = (lastSaid Setting.executor? steps).or c.executor
  eager : c'.eager = (lastSaid Setting.eager? steps).getD c.eager

theorem Grows.refl (c : Client σ κ) : c.Grows [] c :=
  ⟨(List.append_nil _).symm, (List.append_nil _).symm, rfl, rfl, rfl, rfl⟩

theorem Grows.trans {steps more : List (Setting σ κ)} {d : Client σ κ} (first : c.Grows steps c')
    (second : c'.Grows more d) : c.Grows (steps ++ more) d := by
  constructor
  · rw [second.converters, first.converters, List.filterMap_append, List.append_assoc]
  · rw [second.adapters, first.adapters, List.filterMap_append, List.append_assoc]
  · rw [second.baseUrl, first.baseUrl, lastSaid_append]
    cases lastSaid Setting.baseUrl? more with
    | none => rfl
    | some url => rfl
  · rw [second.calls, first.calls, lastSaid_append]
    cases lastSaid Setting.calls? more with
    | none => rfl
    | some maker => rfl
  · rw [second.executor, first.executor, lastSaid_append, Option.or_assoc]
  · rw [second.eager, first.eager, lastSaid_append]
    cases lastSaid Setting.eager? more with
    | none => rfl
    | some flag => rfl

theorem baseUrl_settings_setAll (c : Client σ κ) (steps : List (Setting σ κ)) :
    (c.settings.setAll steps).baseUrl =
      some ((lastSaid Setting.baseUrl? steps).getD c.baseUrl) := by
  rw [ClientSettings.baseUrl_setAll]
  cases lastSaid Setting.baseUrl? steps with
  | none => rfl
  | some url => rfl

theorem calls_settings_setAll (c : Client σ κ) (steps : List (Setting σ κ)) :
    (c.settings.setAll steps).calls = some ((lastSaid Setting.calls? steps).getD c.calls) := by
  rw [ClientSettings.calls_setAll]
  cases lastSaid Setting.calls? steps with
  | none => rfl
  | some maker => rfl

theorem grows_of_derive {steps : List (Setting σ κ)} (derived : c.derive steps = .ok c') :
    c.Grows steps c' := by
  have makes := ClientSettings.build_eq_ok_iff.mp derived
  constructor
  · rw [← makes.converters, ClientSettings.converters_setAll]
    rfl
  · rw [← makes.adapters, ClientSettings.adapters_setAll]
    rfl
  · have said := makes.baseUrl
    rw [baseUrl_settings_setAll] at said
    exact (Option.some.inj said).symm
  · have said := makes.calls
    rw [calls_settings_setAll] at said
    exact (Option.some.inj said).symm
  · rw [← makes.executor, ClientSettings.executor_setAll]
    cases lastSaid Setting.executor? steps with
    | none => rfl
    | some executor => rfl
  · rw [← makes.eager, ClientSettings.eager_setAll, Option.map_id]
    rfl

/-- What is said in several generations is said in the end, generation after generation. -/
theorem grows_of_generations {generations : List (List (Setting σ κ))}
    (derived : generations.foldlM derive c = .ok c') : c.Grows generations.flatten c' := by
  induction generations generalizing c with
  | nil =>
      cases derived
      exact .refl _
  | cons steps generations ih =>
      rw [List.foldlM_cons] at derived
      cases next : c.derive steps with
      | error error =>
          rw [next] at derived
          cases derived
      | ok d =>
          rw [next] at derived
          exact (grows_of_derive next).trans (ih derived)

/-- Only a base URL can go wrong when a client is made from another one. -/
theorem derive_isOk_iff (c : Client σ κ) (steps : List (Setting σ κ)) :
    (∃ c', c.derive steps = .ok c') ↔
      ((lastSaid Setting.baseUrl? steps).getD c.baseUrl).toList.getLast? = some '/' := by
  constructor
  · rintro ⟨c', derived⟩
    rw [← (grows_of_derive derived).baseUrl]
    exact (ClientSettings.build_eq_ok_iff.mp derived).complete.baseUrl
  · intro closed
    rw [derive, ClientSettings.build, baseUrl_settings_setAll, calls_settings_setAll]
    simp only
    rw [if_neg (not_not_intro closed)]
    exact ⟨_, rfl⟩

end Client

/-! ### Registries -/

namespace Engine

variable {h h' : ClientHandle σ κ} {e e' : Engine σ κ}

/-- Registering services and looking methods up through a handle. -/
inductive Uses (h : ClientHandle σ κ) : Engine σ κ → Engine σ κ → Prop where
  | refl (e : Engine σ κ) : Uses h e e
  | register {e e' : Engine σ κ} (d : ServiceDeclaration σ)
      (rest : Uses h ((Engine.register h d).run e).2 e') : Uses h e e'
  | resolve {e e' : Engine σ κ} (id : MethodId)
      (rest : Uses h ((Engine.resolve h id).run e).2 e') : Uses h e e'

theorem registryOf_set_other (apart : h.registry ≠ h'.registry) (e : Engine σ κ)
    (r : Registry (MethodEntry σ) (Plan σ κ)) (t : σ) :
    ({ e with
        plugins := t
        registries := e.registries.set h.registry r } : Engine σ κ).registryOf h' =
      e.registryOf h' := by
  rw [registryOf, registryOf, List.getElem?_set_ne apart]

theorem registryOf_resolve_other (apart : h.registry ≠ h'.registry) (id : MethodId)
    (e : Engine σ κ) : ((resolve h id).run e).2.registryOf h' = e.registryOf h' := by
  rw [run_resolve]
  exact registryOf_set_other apart e _ _

theorem registryOf_resolveAll_other (apart : h.registry ≠ h'.registry) (ids : List MethodId)
    (e : Engine σ κ) : ((resolveAll h ids).run e).2.registryOf h' = e.registryOf h' := by
  induction ids generalizing e with
  | nil => rfl
  | cons id ids ih =>
      have first := registryOf_resolve_other apart id e
      rw [run_resolveAll_cons]
      rcases resolved : (resolve h id).run e with ⟨error | plan, e₁⟩
      · rw [resolved] at first
        exact first
      · rw [resolved] at first
        exact (ih e₁).trans first

theorem registryOf_register_other (apart : h.registry ≠ h'.registry) (d : ServiceDeclaration σ)
    (e : Engine σ κ) : ((register h d).run e).2.registryOf h' = e.registryOf h' := by
  rw [run_register]
  cases duplicate? [] (d.methods.map (·.name)) with
  | some name => rfl
  | none =>
      generalize addMethods d.name (e.registryOf h) d.methods = added
      obtain ⟨methods, r⟩ := added
      have written := registryOf_set_other apart e r e.plugins
      cases h.client.eager with
      | false => exact written
      | true =>
          refine Eq.trans ?_ written
          have resolved := registryOf_resolveAll_other apart (⟨d.name, methods⟩ : Service).ids
            { e with registries := e.registries.set h.registry r }
          simp only [if_true]
          generalize (resolveAll h _).run _ = ran at resolved ⊢
          rcases ran with ⟨_ | error, e₂⟩
          · exact resolved
          · exact (registryOf_set_other apart e₂ _ _).trans resolved

/-- Whatever is done through one handle, another registry stays as it is. -/
theorem Uses.registryOf_other (uses : Uses h e e') (apart : h.registry ≠ h'.registry) :
    e'.registryOf h' = e.registryOf h' := by
  induction uses with
  | refl e => rfl
  | register d _ ih => exact ih.trans (registryOf_register_other apart d _)
  | resolve id _ ih => exact ih.trans (registryOf_resolve_other apart id _)

/-- Opening the client gives it an empty registry of its own, apart from that of the handle `h`:
what is done through the one does not show in the other. -/
structure OpensApart (c : Client σ κ) (h : ClientHandle σ κ) (e : Engine σ κ) : Prop where
  client : ((openClient c).run e).1.client = c
  fresh : ((openClient c).run e).2.registryOf ((openClient c).run e).1 = .empty
  kept : ∀ {e'}, Uses ((openClient c).run e).1 ((openClient c).run e).2 e' →
    e'.registryOf h = e.registryOf h
  untouched : ∀ {e'}, Uses h ((openClient c).run e).2 e' →
    e'.registryOf ((openClient c).run e).1 = .empty

theorem opensApart (c : Client σ κ) (opened : h.registry < e.registries.length) :
    OpensApart c h e := by
  have fresh : ({ e with registries := e.registries ++ [Registry.empty] } : Engine σ κ).registryOf
      (⟨c, e.registries.length⟩ : ClientHandle σ κ) = .empty := by
    rw [registryOf, List.getElem?_concat_length]
    rfl
  have kept :
      ({ e with registries := e.registries ++ [Registry.empty] } : Engine σ κ).registryOf h =
        e.registryOf h := by
    rw [registryOf, registryOf, List.getElem?_append_left opened]
  have apart : e.registries.length ≠ h.registry := Nat.ne_of_gt opened
  constructor
  · rfl
  · exact fresh
  · intro e' uses
    exact (uses.registryOf_other apart).trans kept
  · intro e' uses
    exact (uses.registryOf_other apart.symm).trans fresh

end Engine

/-! ### Copies -/

namespace Client

theorem Complete.entries_converters {c : Client σ κ} (complete : c.Complete) :
    c.converters.entries =
      ⟨"BuiltInConverters", builtInConverters 0⟩ :: c.userConverters.entries := by
  rw [complete.converters]
  rfl

theorem Complete.entries_adapters {c : Client σ κ} (complete : c.Complete) :
    c.adapters.entries =
      c.userAdapters.entries ++ [⟨"DefaultCallAdapterFactory", defaultAdapter 0 c.executor⟩] := by
  rw [complete.adapters]
  rfl

/-- The client `c'` is `c` with more factories behind those of the user and with some settings
replaced. There is still one default adapter, with the executor then in force. -/
structure Derives (c : Client σ κ) (steps : List (Setting σ κ)) (c' : Client σ κ) : Prop where
  grows : c.Grows steps c'
  converters : c'.converters.entries = c.converters.entries ++ steps.filterMap Setting.converter?
  adapters : c'.adapters.entries = c.userAdapters.entries ++ steps.filterMap Setting.adapter? ++
    [⟨"DefaultCallAdapterFactory", defaultAdapter 0 c'.executor⟩]

theorem complete_of_generations {c c' : Client σ κ} (complete : c.Complete)
    {generations : List (List (Setting σ κ))}
    (derived : generations.foldlM derive c = .ok c') : c'.Complete := by
  induction generations generalizing c with
  | nil =>
      cases derived
      exact complete
  | cons steps generations ih =>
      rw [List.foldlM_cons] at derived
      cases next : c.derive steps with
      | error error =>
          rw [next] at derived
          cases derived
      | ok d =>
          rw [next] at derived
          exact ih (ClientSettings.build_eq_ok_iff.mp next).complete derived

theorem Grows.derives {c c' : Client σ κ} {steps : List (Setting σ κ)} (grows : c.Grows steps c')
    (complete : c.Complete) (complete' : c'.Complete) : c.Derives steps c' := by
  constructor
  · exact grows
  · rw [complete'.entries_converters, grows.converters, complete.entries_converters,
      List.cons_append]
  · rw [complete'.entries_adapters, grows.adapters]

/-- The client `c`, set up with `steps` on top of the settings `start`, is copied as it is. -/
structure CopiesLosslessly (start : ClientSettings σ κ) (steps : List (Setting σ κ))
    (c : Client σ κ) : Prop where
  /-- The built-in converters come first, then the user's in the order in which they were given. -/
  converters : c.converters.entries = ⟨"BuiltInConverters", builtInConverters 0⟩ ::
    (start.converters.entries ++ steps.filterMap Setting.converter?)
  /-- The user's adapters come in the order in which they were given, the default adapter last. -/
  adapters : c.adapters.entries =
    start.adapters.entries ++ steps.filterMap Setting.adapter? ++
      [⟨"DefaultCallAdapterFactory", defaultAdapter 0 c.executor⟩]
  /-- A copy, a copy of it, and so on, are the client itself. -/
  copied : ∀ n, c.copied n = .ok c
  /-- Clients that are made from it in turns differ in what was said on the way. -/
  derives : ∀ {generations : List (List (Setting σ κ))} {c'}, generations.foldlM derive c = .ok c' →
    c.Derives generations.flatten c'
  /-- They can be made unless a base URL is given that does not end in a slash. -/
  succeeds : ∀ more, (∃ c', c.derive more = .ok c') ↔
    ((lastSaid Setting.baseUrl? more).getD c.baseUrl).toList.getLast? = some '/'
  /-- A client that is made has its own empty registry, and those that there are stay. -/
  opens : ∀ {h : ClientHandle σ κ} {e : Engine σ κ} (c' : Client σ κ),
    h.registry < e.registries.length → Engine.OpensApart c' h e

theorem copies_losslessly {start : ClientSettings σ κ} {steps : List (Setting σ κ)}
    {c : Client σ κ} (built : (start.setAll steps).build = .ok c) :
    CopiesLosslessly start steps c := by
  have makes := ClientSettings.build_eq_ok_iff.mp built
  constructor
  · rw [makes.complete.entries_converters, ← makes.converters, ClientSettings.converters_setAll]
  · rw [makes.complete.entries_adapters, ← makes.adapters, ClientSettings.adapters_setAll]
  · exact makes.complete.copied_eq
  · intro generations c' derived
    exact (grows_of_generations derived).derives makes.complete
      (complete_of_generations makes.complete derived)
  · exact c.derive_isOk_iff
  · intro h e c' opened
    exact Engine.opensApart c' opened

/-- Settings that repeat the factories of every client, under names that are taken. -/
def twinSettings : List (Setting Unit Unit) :=
  [.baseUrl "http://localhost/", .calls .lossy,
    .converter "BuiltInConverters" (builtInConverters 0),
    .adapter "DefaultCallAdapterFactory" (defaultAdapter 0 none), .executor .manual]

/-- A factory of the user may be the one that every client has: there are two of it, and a copy has
no third one. -/
theorem copies_losslessly_twins : ∃ c,
    ((({} : ClientSettings Unit Unit).setAll twinSettings).build = .ok c ∧
      CopiesLosslessly {} twinSettings c) ∧
      c.converters.names = ["BuiltInConverters", "BuiltInConverters"] ∧
        c.adapters.names = ["DefaultCallAdapterFactory", "DefaultCallAdapterFactory"] :=
  ⟨_, ⟨rfl, copies_losslessly rfl⟩, rfl, rfl⟩

end Client

end RemoteCall
