import RemoteCall.Proofs.Inquiry
import RemoteCall.Proofs.Resolving

/-!
Who is to blame when a method can not be built.

Factories ask factories, so a search that fails may have failed far inside. `Client.Blames` follows
the failure to the innermost search that has failed by itself: nobody there had an offer, or a
factory raised a fault of its own. `ending_of_blames` says that the error of that search comes out,
whatever explanations the factories on the way have put around it, and `blames_of_ending` that there
always is such a search if the factories hand failures on. `attributes_failures` carries this to
methods that are resolved.
-/

namespace RemoteCall

variable {σ κ α : Type}

/-! ### Errors in faults -/

/-- The fault is the error, under any number of explanations. -/
inductive Fault.Carries (error : Error) : Fault → Prop where
  | carried : Carries error (.carried error)
  | context (text : String) {inner : Fault} (carries : Carries error inner) :
      Carries error (.context text inner)

theorem Fault.carries_iff {error : Error} : ∀ {fault : Fault},
    fault.Carries error ↔ fault.error? = some error
  | .plain text => by
      constructor
      · rintro ⟨⟩
      · rintro ⟨⟩
  | .carried other => by
      constructor
      · rintro ⟨⟩
        rfl
      · rintro ⟨⟩
        exact .carried
  | .context text inner => by
      rw [Fault.error?, ← carries_iff]
      constructor
      · rintro (_ | ⟨_, carries⟩)
        exact carries
      · exact .context text

theorem Error.ofFactory_of_carries {error : Error} {fault : Fault} (carries : fault.Carries error)
    (name : String) : Error.ofFactory name fault = error := by
  rw [ofFactory, Fault.carries_iff.mp carries]
  rfl

theorem Error.ofFactory_of_foreign {fault : Fault} (foreign : ∀ error, ¬ fault.Carries error)
    (name : String) : Error.ofFactory name fault = .factory none name fault := by
  cases found : fault.error? with
  | none =>
      rw [ofFactory, found]
      rfl
  | some error => exact absurd (Fault.carries_iff.mpr found) (foreign error)

/-! ### The way to an entry, and the way of a probe -/

/-- From the state `s`, the scan of the entries `es` comes to the entry `e` in the state `t`: those
before it have no match. -/
inductive Chain.Reaches {φ : Type} (probe : Nat → φ → Search σ (Except Fault (Option α))) :
    Nat → List (Entry φ) → σ → Nat → Entry φ → σ → Prop where
  | here (place : Nat) (e : Entry φ) (es : List (Entry φ)) (s : σ) :
      Reaches probe place (e :: es) s place e s
  | pass {place place' : Nat} {e e' : Entry φ} {es : List (Entry φ)} {s t u : σ}
      (passes : ending (probe place e.item) s = (some (.ok none), t))
      (later : Reaches probe (place + 1) es t place' e' u) :
      Reaches probe place (e :: es) s place' e' u

/-- From the state `s`, the probe `p` comes to `p'` in the state `t`; whatever it has asked on the
way was answered with an offer. -/
inductive Probe.Comes (answer : Origin → (q : Query) → Search σ (Except Error (q.Offer σ κ))) :
    Probe σ κ α → σ → Probe σ κ α → σ → Prop where
  | refl (p : Probe σ κ α) (s : σ) : Comes answer p s p s
  | read {next : σ → Probe σ κ α} {s t : σ} {p : Probe σ κ α} (rest : Comes answer (next s) s p t) :
      Comes answer (.read next) s p t
  | write {state s t : σ} {next p : Probe σ κ α} (rest : Comes answer next state p t) :
      Comes answer (.write state next) s p t
  | ask {origin : Origin} {q : Query} {next : Except Error (q.Offer σ κ) → Probe σ κ α}
      {offer : q.Offer σ κ} {s t u : σ} {p : Probe σ κ α}
      (answered : ending (answer origin q) s = (some (.ok offer), t))
      (rest : Comes answer (next (.ok offer)) t p u) : Comes answer (.ask origin q next) s p u

/-- The probe ends with the error, under any number of explanations, and asks nothing more. -/
inductive Probe.Returns (error : Error) : Probe σ κ α → Prop where
  | done {fault : Fault} (carries : fault.Carries error) : Returns error (.done (.error fault))
  | read {next : σ → Probe σ κ α} (each : ∀ s, Returns error (next s)) : Returns error (.read next)
  | write {state : σ} {next : Probe σ κ α} (rest : Returns error next) :
      Returns error (.write state next)

/-- Whenever the probe is told an error, it ends with that. -/
inductive Probe.HandsOn : Probe σ κ α → Prop where
  | done (answer : Except Fault (Option α)) : HandsOn (.done answer)
  | read {next : σ → Probe σ κ α} (each : ∀ s, HandsOn (next s)) : HandsOn (.read next)
  | write {state : σ} {next : Probe σ κ α} (rest : HandsOn next) : HandsOn (.write state next)
  | ask {origin : Origin} {q : Query} {next : Except Error (q.Offer σ κ) → Probe σ κ α}
      (each : ∀ offer, HandsOn (next (.ok offer)))
      (failed : ∀ error, (next (.error error)).Returns error) : HandsOn (.ask origin q next)

/-- The factory hands the errors on that it is told. -/
def Factory.HandsOn (f : Factory σ κ) : Prop := ∀ q l, (f.probe q l).HandsOn

/-- All factories of the client do so. -/
def Client.HandsOn (c : Client σ κ) : Prop := ∀ side, ∀ e ∈ (c.chain side).entries, e.item.HandsOn

theorem builtInConverters_handsOn (key : Nat) : (builtInConverters key : Factory σ κ).HandsOn := by
  intro q l
  obtain ⟨offer, same⟩ := builtInProbe_ok (σ := σ) (κ := κ) q
  have done : (builtInConverters key : Factory σ κ).probe q l = .done (.ok offer) := same
  rw [done]
  exact .done _

theorem defaultAdapter_handsOn (key : Nat) (executor : Option Executor) :
    (defaultAdapter key executor : Factory σ κ).HandsOn := by
  intro q l
  obtain ⟨a, same, _⟩ := defaultAdapterProbe_done (σ := σ) (κ := κ) executor q
  have done : (defaultAdapter key executor : Factory σ κ).probe q l = .done a := same
  rw [done]
  exact .done a

theorem Factory.decorating_handsOn (key : Nat)
    (decorate : (q : Query) → q.Offer σ κ → q.Offer σ κ) :
    (Factory.decorating key decorate).HandsOn :=
  fun _ _ => .ask (fun _ => .done _) fun _ => .done .carried

theorem Chain.Reaches.mem {φ : Type} {probe : Nat → φ → Search σ (Except Fault (Option α))}
    {place place' : Nat} {e : Entry φ} {es : List (Entry φ)} {s t : σ}
    (reaches : Chain.Reaches probe place es s place' e t) : e ∈ es := by
  induction reaches with
  | here place e es s => exact List.mem_cons_self
  | pass _ _ ih => exact List.mem_cons_of_mem _ ih

/-- A scan fails with the fault of the entry that it has come to. -/
theorem Chain.Reaches.ending_scan {φ : Type}
    {probe : Nat → φ → Search σ (Except Fault (Option α))} {place place' : Nat} {e : Entry φ}
    {es : List (Entry φ)} {s t u : σ} {fault : Fault}
    (reaches : Chain.Reaches probe place es s place' e t)
    (fails : ending (probe place' e.item) t = (some (.error fault), u)) :
    ending (Chain.scan probe place es) s = (some (.error (.ofFactory e.name fault)), u) := by
  induction reaches with
  | here place e es s => rw [ending_scan_cons, fails]
  | pass passes _ ih =>
      rw [ending_scan_cons, passes]
      exact ih fails

/-- A scan that has failed has come to an entry whose fault it is. -/
theorem Chain.reaches_of_ending {φ : Type}
    {probe : Nat → φ → Search σ (Except Fault (Option α))} {place : Nat} {es : List (Entry φ)}
    {s u : σ} {error : Error}
    (failed : ending (Chain.scan probe place es) s = (some (.error error), u)) :
    ∃ place' e t fault, Chain.Reaches probe place es s place' e t ∧
      ending (probe place' e.item) t = (some (.error fault), u) ∧
        error = .ofFactory e.name fault := by
  induction es generalizing place s with
  | nil => cases failed
  | cons e es ih =>
      rw [ending_scan_cons] at failed
      rcases asked : ending (probe place e.item) s with ⟨_ | fault | _ | offer, t⟩
      · rw [asked] at failed
        cases failed
      · rw [asked] at failed
        cases failed
        exact ⟨place, e, s, fault, .here place e es s, asked, rfl⟩
      · rw [asked] at failed
        obtain ⟨place', e', t', fault, reaches, fails, same⟩ := ih failed
        exact ⟨place', e', t', fault, .pass asked reaches, fails, same⟩
      · rw [asked] at failed
        cases failed

section Probes

variable {answer : Origin → (q : Query) → Search σ (Except Error (q.Offer σ κ))}

theorem Probe.Comes.ending_run {p p' : Probe σ κ α} {s t : σ} (comes : p.Comes answer s p' t) :
    ending (p.run answer) s = ending (p'.run answer) t := by
  induction comes with
  | refl p s => rfl
  | read _ ih => exact ih
  | write _ ih => exact ih
  | ask answered _ ih =>
      rw [ending_run_ask, answered]
      exact ih

theorem Probe.Returns.ending_run {error : Error} {p : Probe σ κ α} (returns : p.Returns error)
    (answer : Origin → (q : Query) → Search σ (Except Error (q.Offer σ κ))) (s : σ) :
    ∃ fault t, ending (p.run answer) s = (some (.error fault), t) ∧ fault.Carries error := by
  induction returns generalizing s with
  | @done fault carries => exact ⟨fault, s, rfl, carries⟩
  | read _ ih => exact ih s s
  | @write state _ _ ih => exact ih state

/-- A probe that hands errors on fails by itself, or with an error that it was told. -/
theorem Probe.HandsOn.comes {p : Probe σ κ α} (handsOn : p.HandsOn) {s u : σ} {fault : Fault}
    (fails : ending (p.run answer) s = (some (.error fault), u)) :
    (∃ t, p.Comes answer s (.done (.error fault)) t) ∨
      ∃ origin q next t error v, p.Comes answer s (.ask origin q next) t ∧
        ending (answer origin q) t = (some (.error error), v) ∧
          (next (.error error)).Returns error ∧ fault.Carries error := by
  induction handsOn generalizing s with
  | done a =>
      cases fails
      exact Or.inl ⟨_, .refl _ _⟩
  | @read next _ ih =>
      rcases ih s fails with ⟨t, comes⟩ | ⟨origin, q, next, t, error, v, comes, rest⟩
      · exact Or.inl ⟨t, .read comes⟩
      · exact Or.inr ⟨origin, q, next, t, error, v, .read comes, rest⟩
  | @write state next _ ih =>
      rcases ih fails with ⟨t, comes⟩ | ⟨origin, q, next, t, error, v, comes, rest⟩
      · exact Or.inl ⟨t, .write comes⟩
      · exact Or.inr ⟨origin, q, next, t, error, v, .write comes, rest⟩
  | @ask origin q next _ failed ih =>
      rw [ending_run_ask] at fails
      rcases told : ending (answer origin q) s with ⟨_ | error | offer, v⟩
      · rw [told] at fails
        cases fails
      · obtain ⟨fault', t, ends, carries⟩ := (failed error).ending_run answer v
        simp only [told, ends] at fails
        cases fails
        exact Or.inr ⟨origin, q, next, s, error, v, .refl _ s, told, failed error, carries⟩
      · rw [told] at fails
        rcases ih offer fails with ⟨t, comes⟩ | ⟨origin, q, next, t, error, v, comes, rest⟩
        · exact Or.inl ⟨t, .ask told comes⟩
        · exact Or.inr ⟨origin, q, next, t, error, v, .ask told comes, rest⟩

end Probes

/-! ### Searches -/

/-- What a question asks for. Texts are always found. -/
def Query.capability? : Query → Option Capability
  | callAdapter .. => some .callAdapter
  | responseConverter .. => some .responseConverter
  | requestConverter .. => some .requestConverter
  | stringConverter .. => none

namespace Client

variable {c : Client σ κ}

/-- From the state `s`, the search from the place `start` on fails, and `error` is what the
innermost failing search has made of the cause. -/
inductive Blames (c : Client σ κ) : Nat → Query → Nat → σ → Error → Prop where
  /-- Every factory from `start` on was asked, and none has an offer. -/
  | exhausted {depth : Nat} {q : Query} {start : Nat} {s t : σ} {capability : Capability}
      (wanted : q.capability? = some capability)
      (nobody : ending (c.scanFrom depth q start) s = (some (.ok none), t)) :
      Blames c (depth + 1) q start s (.resolution none ⟨capability, q.shape,
        (c.chain q.side).names.take start, (c.chain q.side).names.drop start⟩)
  /-- The factory `e` has raised a fault that is no error of the library. -/
  | foreign {depth : Nat} {q : Query} {start place : Nat} {s t u : σ} {e : Entry (Factory σ κ)}
      {fault : Fault}
      (reaches : Chain.Reaches (c.probeAt depth q) start ((c.chain q.side).entries.drop start) s
        place e t)
      (raises : (e.item.probe q ⟨place, c.baseUrl⟩).Comes (c.answers depth q.side place) t
        (.done (.error fault)) u)
      (foreign : ∀ error, ¬ fault.Carries error) :
      Blames c (depth + 1) q start s (.factory none e.name fault)
  /-- The factory `e` has raised an error of the library. -/
  | own {depth : Nat} {q : Query} {start place : Nat} {s t u : σ} {e : Entry (Factory σ κ)}
      {fault : Fault} {error : Error}
      (reaches : Chain.Reaches (c.probeAt depth q) start ((c.chain q.side).entries.drop start) s
        place e t)
      (raises : (e.item.probe q ⟨place, c.baseUrl⟩).Comes (c.answers depth q.side place) t
        (.done (.error fault)) u)
      (carries : fault.Carries error) : Blames c (depth + 1) q start s error
  /-- The factory `e` has asked in its turn, and returns the failure of that search. -/
  | delegated {depth : Nat} {q q' : Query} {start place : Nat} {s t u : σ} {e : Entry (Factory σ κ)}
      {origin : Origin}
      {next : Except Error (q'.Offer σ κ) → Probe σ κ (q.Offer σ κ)} {error : Error}
      (reaches : Chain.Reaches (c.probeAt depth q) start ((c.chain q.side).entries.drop start) s
        place e t)
      (asks : (e.item.probe q ⟨place, c.baseUrl⟩).Comes (c.answers depth q.side place) t
        (.ask origin q' next) u)
      (inner : Blames c depth q' (startOf origin q.side place q') u error)
      (returns : (next (.error error)).Returns error) : Blames c (depth + 1) q start s error

theorem unmatched_of_capability (c : Client σ κ) {q : Query} {capability : Capability}
    (wanted : q.capability? = some capability) (start : Nat) :
    c.unmatched start q = .error (.resolution none ⟨capability, q.shape,
      (c.chain q.side).names.take start, (c.chain q.side).names.drop start⟩) := by
  cases q with
  | callAdapter shape tags =>
      cases wanted
      rfl
  | responseConverter shape tags =>
      cases wanted
      rfl
  | requestConverter shape parameter method =>
      cases wanted
      rfl
  | stringConverter shape tags => cases wanted

/-- A search fails with the fault of the factory that its scan has come to. -/
theorem ending_search_of_reaches {depth : Nat} {q : Query} {start place : Nat} {s t u : σ}
    {e : Entry (Factory σ κ)} {fault : Fault}
    (reaches : Chain.Reaches (c.probeAt depth q) start ((c.chain q.side).entries.drop start) s
      place e t)
    (fails : ending (c.probeAt depth q place e.item) t = (some (.error fault), u)) :
    ending (c.search (depth + 1) q start) s = (some (.error (.ofFactory e.name fault)), u) := by
  have scan : ending (c.scanFrom depth q start) s =
      (some (.error (.ofFactory e.name fault)), u) := reaches.ending_scan fails
  rw [ending_search, scan]
  rfl

/-- The error of the innermost failing search comes out of the search. -/
theorem ending_of_blames {depth : Nat} {q : Query} {start : Nat} {s : σ} {error : Error}
    (blames : c.Blames depth q start s error) :
    ∃ t, ending (c.search depth q start) s = (some (.error error), t) := by
  induction blames with
  | @exhausted depth q start s t capability wanted nobody =>
      refine ⟨t, ?_⟩
      rw [ending_search, nobody, ← c.unmatched_of_capability wanted start]
      rfl
  | @foreign depth q start place s t u e fault reaches raises foreign =>
      refine ⟨u, ?_⟩
      rw [← Error.ofFactory_of_foreign foreign e.name]
      exact ending_search_of_reaches reaches raises.ending_run
  | @own depth q start place s t u e fault error reaches raises carries =>
      refine ⟨u, ?_⟩
      rw [← Error.ofFactory_of_carries carries e.name]
      exact ending_search_of_reaches reaches raises.ending_run
  | @delegated depth q q' start place s t u e origin next error reaches asks _ returns ih =>
      obtain ⟨v, told⟩ := ih
      obtain ⟨fault, w, ends, carries⟩ :=
        returns.ending_run (c.answers depth q.side place) v
      have fails : ending (c.probeAt depth q place e.item) t = (some (.error fault), w) := by
        have answered : ending (c.answers depth q.side place origin q') u =
          (some (.error error), v) := told
        rw [probeAt, asks.ending_run, ending_run_ask, answered]
        exact ends
      refine ⟨w, ?_⟩
      rw [← Error.ofFactory_of_carries carries e.name]
      exact ending_search_of_reaches reaches fails

/-- The fault of a factory that hands errors on is its own, or it was told by a search. -/
theorem blames_of_fault (handsOn : c.HandsOn) {depth : Nat}
    (deeper : ∀ {q : Query} {start : Nat} {s u : σ} {error : Error},
      ending (c.search depth q start) s = (some (.error error), u) → c.Blames depth q start s error)
    {q : Query} {start place : Nat} {s t u : σ} {e : Entry (Factory σ κ)} {fault : Fault}
    (reaches : Chain.Reaches (c.probeAt depth q) start ((c.chain q.side).entries.drop start) s
      place e t)
    (fails : ending (c.probeAt depth q place e.item) t = (some (.error fault), u)) :
    c.Blames (depth + 1) q start s (.ofFactory e.name fault) := by
  have hands := handsOn q.side e (List.mem_of_mem_drop reaches.mem) q ⟨place, c.baseUrl⟩
  rcases hands.comes fails with
    ⟨t', raises⟩ | ⟨origin, q', next, t', error, v', asks, told, returns, carries⟩
  · by_cases carried : ∃ error, fault.Carries error
    · obtain ⟨error, carries⟩ := carried
      rw [Error.ofFactory_of_carries carries]
      exact .own reaches raises carries
    · have foreign := not_exists.mp carried
      rw [Error.ofFactory_of_foreign foreign]
      exact .foreign reaches raises foreign
  · rw [Error.ofFactory_of_carries carries]
    exact .delegated reaches asks (deeper told) returns

/-- Only a search for something that must be found can fail for want of an offer. -/
theorem capability_of_unmatched {q : Query} {start : Nat} {error : Error}
    (failed : c.unmatched start q = .error error) : ∃ capability,
      q.capability? = some capability ∧ error = .resolution none ⟨capability, q.shape,
        (c.chain q.side).names.take start, (c.chain q.side).names.drop start⟩ := by
  cases wanted : q.capability? with
  | some capability =>
      rw [c.unmatched_of_capability wanted start] at failed
      cases failed
      exact ⟨capability, rfl, rfl⟩
  | none =>
      cases q with
      | stringConverter shape tags => cases failed
      | callAdapter shape tags => cases wanted
      | responseConverter shape tags => cases wanted
      | requestConverter shape parameter method => cases wanted

/-- If the factories hand errors on, a failed search has an innermost one that has failed. -/
theorem blames_of_ending (handsOn : c.HandsOn) {depth : Nat} {q : Query} {start : Nat} {s u : σ}
    {error : Error} (failed : ending (c.search depth q start) s = (some (.error error), u)) :
    c.Blames depth q start s error := by
  -- What a factory was told comes from a search one level deeper.
  induction depth generalizing q start s u error with
  | zero => cases failed
  | succ depth ih =>
      rw [ending_search] at failed
      rcases scan : ending (c.scanFrom depth q start) s with ⟨_ | error' | _ | offer, v⟩
      · rw [scan] at failed
        cases failed
      · rw [scan] at failed
        cases failed
        obtain ⟨place, e, t, fault, reaches, fails, rfl⟩ := Chain.reaches_of_ending scan
        exact blames_of_fault handsOn ih reaches fails
      · rw [scan] at failed
        obtain ⟨unmatched, rfl⟩ := Prod.mk.inj failed
        obtain ⟨capability, wanted, rfl⟩ := capability_of_unmatched (Option.some.inj unmatched)
        exact .exhausted wanted scan
      · rw [scan] at failed
        cases failed

/-! ### Builds -/

/-- From the plug-in state `s`, the build of a method comes to a search for `q` in the state `t`. -/
inductive BuildScans (c : Client σ κ) (e : MethodEntry σ) (s : σ) : Query → σ → Prop where
  | adapter (wellFormed : conventionFault? e.record.convention = none) :
      BuildScans c e s (.callAdapter (adapterShape e.record.convention) (adapterTags e.record)) s
  | converter {adapter : CallAdapter σ κ} {t : σ}
      (wellFormed : conventionFault? e.record.convention = none)
      (found : ending (c.offer (.callAdapter (adapterShape e.record.convention)
        (adapterTags e.record))) s = (some (.ok adapter), t))
      (usable : payloadFault? e.record.verb adapter.responseType = none) :
      BuildScans c e s (.responseConverter adapter.responseType e.record.metadata) t

/-- A build fails with the error of its search, in which the method is filled in. -/
theorem BuildScans.ending_planFor {e : MethodEntry σ} {s t u : σ} {q : Query} {error : Error}
    (scans : c.BuildScans e s q t) (failed : ending (c.offer q) t = (some (.error error), u))
    (id : MethodId) :
    ending (planFor c id e) s = (some (.error (error.forMethod e.qualified)), u) := by
  cases scans with
  | adapter wellFormed => rw [RemoteCall.ending_planFor wellFormed, failed]
  | converter wellFormed found usable =>
      rw [RemoteCall.ending_planFor wellFormed, found]
      simp only
      rw [ending_finish usable, failed]

end Client

/-- Whether the error could name a method but does not. -/
def Error.LacksMethod : Error → Prop
  | .configuration none _ | .resolution none _ | .factory none _ _ => True
  | _ => False

/-- The errors are the same, but for the method that is filled in where one was missing. -/
inductive Error.NamedFor (method : String) : Error → Error → Prop where
  | configuration (reason : String) :
      NamedFor method (.configuration none reason) (.configuration (some method) reason)
  | resolution (failure : ResolutionFailure) :
      NamedFor method (.resolution none failure) (.resolution (some method) failure)
  | factory (name : String) (source : Fault) :
      NamedFor method (.factory none name source) (.factory (some method) name source)
  | kept {error : Error} (complete : ¬ error.LacksMethod) : NamedFor method error error

theorem Error.namedFor_forMethod (error : Error) (method : String) :
    error.NamedFor method (error.forMethod method) := by
  cases error with
  | configuration named reason =>
      cases named with
      | none => exact .configuration reason
      | some _ => exact .kept id
  | resolution named failure =>
      cases named with
      | none => exact .resolution failure
      | some _ => exact .kept id
  | factory named name source =>
      cases named with
      | none => exact .factory name source
      | some _ => exact .kept id
  | _ => exact .kept id

/-- The failure of a build in one of its searches is that of the innermost search that failed. -/
structure Attributes (h : ClientHandle σ κ) (id : MethodId) (entry : MethodEntry σ)
    (e : Engine σ κ) : Prop where
  /-- What that search has made of the cause comes out for the method, and nothing is kept. -/
  comesOut : ∀ {q s error}, h.client.BuildScans entry e.plugins q s →
    h.client.Blames h.client.depth q 0 s error →
      ∃ out t, error.NamedFor entry.qualified out ∧
        (Engine.resolve h id).run e = (.error out, { e with plugins := t })
  /-- There is such a search if the factories hand failures on. -/
  hasOrigin : h.client.HandsOn → ∀ {q s t error}, h.client.BuildScans entry e.plugins q s →
    ending (h.client.offer q) s = (some (.error error), t) →
      h.client.Blames h.client.depth q 0 s error

theorem attributes_failures {h : ClientHandle σ κ} {id : MethodId} {entry : MethodEntry σ}
    {e : Engine σ κ} (pending : (e.registryOf h).Pending id entry) : Attributes h id entry e where
  comesOut {q s error} scans blames := by
    obtain ⟨t, failed⟩ := Client.ending_of_blames blames
    obtain ⟨_, _, ran⟩ := Engine.run_resolve_of_pending pending
    have built : (Engine.makePlan h id entry).run e.plugins =
        (.error (error.forMethod entry.qualified), t) := by
      rw [Engine.makePlan, run_settleSearch, scans.ending_planFor failed id]
      rfl
    rw [built] at ran
    exact ⟨_, t, error.namedFor_forMethod entry.qualified, ran⟩
  hasOrigin handsOn _ _ _ _ _ failed := Client.blames_of_ending handsOn failed

/-- A client whose second adapter factory is out of order; the first one asks it. -/
def faultyClient : Client Unit Unit :=
  localClient ⟨[⟨"First", .decorating 1 fun _ => id⟩,
    ⟨"Second", ⟨2, fun _ _ => .fail (.plain "out of order")⟩⟩]⟩ false

/-- A method that is awaited for its end alone. -/
def pingMethod : MethodEntry Unit := ⟨"Api.ping", emptyRequestMethod "ping" (.suspend .unit)⟩

/-- The second factory is blamed, although the first one has asked it. -/
theorem attributes_failures_of_delegate :
    ∃ e : Engine Unit Unit, Attributes ⟨faultyClient, 0⟩ ⟨1⟩ pingMethod e ∧ faultyClient.HandsOn ∧
      (Engine.resolve ⟨faultyClient, 0⟩ ⟨1⟩).run e =
        (.error (.factory (some "Api.ping") "Second" (.plain "out of order")), e) := by
  refine ⟨{ plugins := (), registries := [(Registry.empty.register pingMethod).2] },
    attributes_failures ⟨rfl, rfl⟩, ?_, rfl⟩
  intro side e mem
  cases side with
  | converters =>
      cases List.mem_singleton.mp mem
      exact builtInConverters_handsOn 0
  | adapters =>
      rcases List.mem_cons.mp mem with rfl | mem
      · exact Factory.decorating_handsOn 1 fun _ => id
      · rcases List.mem_cons.mp mem with rfl | mem
        · exact fun _ _ => .done _
        · cases List.mem_singleton.mp mem
          exact defaultAdapter_handsOn 0 none

end RemoteCall
