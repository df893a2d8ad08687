import RemoteCall.Proofs.Matching
import RemoteCall.Proofs.Rebuilding

/-!
Adding converter factories to a client.

A new factory is behind all others, and every search from every factory sees it. If the factories of
the client hand on what fails and ask for no texts, it makes a difference only where a search of the
client has come to the end of its chain without an offer (`Client.RunsOut`): a first match stays
the first match (`FirstMatch.widened`) and a fault that a factory has raised stays the same fault
(`Raises.widened`), however deep in the questions of other factories. `extends_conservatively` sums
this up for the client that is made from another one by adding a factory.

A search for texts that comes to the end of its chain has an offer all the same, the natural text.
It may fail for want of offers nevertheless, if a factory for texts asks for something else and
there is none; and then it may end well with more factories (`text_found_after_failure`).
-/

namespace RemoteCall

variable {σ κ α : Type}

/-! ### Probes that ask for no texts -/

/-- The probe asks for adapters and for converters of bodies only. -/
inductive Probe.AsksNoText : Probe σ κ α → Prop where
  | done (answer : Except Fault (Option α)) : AsksNoText (.done answer)
  | read {next : σ → Probe σ κ α} (each : ∀ s, AsksNoText (next s)) : AsksNoText (.read next)
  | write {state : σ} {next : Probe σ κ α} (rest : AsksNoText next) :
      AsksNoText (.write state next)
  | ask {origin : Origin} {q : Query} {next : Except Error (q.Offer σ κ) → Probe σ κ α}
      {capability : Capability} (wanted : q.capability? = some capability)
      (each : ∀ r, AsksNoText (next r)) : AsksNoText (.ask origin q next)

/-- The probe asks nobody. -/
inductive Probe.AsksNobody : Probe σ κ α → Prop where
  | done (answer : Except Fault (Option α)) : AsksNobody (.done answer)
  | read {next : σ → Probe σ κ α} (each : ∀ s, AsksNobody (next s)) : AsksNobody (.read next)
  | write {state : σ} {next : Probe σ κ α} (rest : AsksNobody next) :
      AsksNobody (.write state next)

/-- The factory asks for adapters and for converters of bodies only. -/
def Factory.AsksNoText (f : Factory σ κ) : Prop := ∀ q l, (f.probe q l).AsksNoText

/-- All factories of the client do so. -/
def Client.AsksNoText (c : Client σ κ) : Prop :=
  ∀ side, ∀ e ∈ (c.chain side).entries, e.item.AsksNoText

theorem builtInConverters_asksNoText (key : Nat) :
    (builtInConverters key : Factory σ κ).AsksNoText := by
  intro q l
  obtain ⟨offer, same⟩ := builtInProbe_ok (σ := σ) (κ := κ) q
  have done : (builtInConverters key : Factory σ κ).probe q l = .done (.ok offer) := same
  rw [done]
  exact .done _

theorem defaultAdapter_asksNoText (key : Nat) (executor : Option Executor) :
    (defaultAdapter key executor : Factory σ κ).AsksNoText := by
  intro q l
  obtain ⟨a, same, _⟩ := defaultAdapterProbe_done (σ := σ) (κ := κ) executor q
  have done : (defaultAdapter key executor : Factory σ κ).probe q l = .done a := same
  rw [done]
  exact .done a

section Probes

variable {answer answer' : Origin → (q : Query) → Search σ (Except Error (q.Offer σ κ))}

/-- What was found by the one way of answering is found by the other one. -/
def FindsAgain
    (answer answer' : Origin → (q : Query) → Search σ (Except Error (q.Offer σ κ))) : Prop :=
  ∀ {origin q capability s t} {offer : q.Offer σ κ}, q.capability? = some capability →
    ending (answer origin q) s = (some (.ok offer), t) →
      ending (answer' origin q) s = (some (.ok offer), t)

/-- A probe that hands errors on and has not failed was told no error. -/
theorem Probe.HandsOn.run_again {p : Probe σ κ α} (handsOn : p.HandsOn) (noText : p.AsksNoText)
    (again : FindsAgain answer answer') {s t : σ} {found : Option α}
    (ended : ending (p.run answer) s = (some (.ok found), t)) :
    ending (p.run answer') s = (some (.ok found), t) := by
  induction handsOn generalizing s with
  | done a => exact ended
  | read _ ih =>
      cases noText with
      | read each => exact ih s (each s) ended
  | write _ ih =>
      cases noText with
      | write rest => exact ih rest ended
  | @ask origin q next _ failed ih =>
      cases noText with
      | ask wanted each =>
          rw [ending_run_ask] at ended ⊢
          rcases told : ending (answer origin q) s with ⟨_ | error | offer, u⟩
          · rw [told] at ended
            cases ended
          · obtain ⟨fault, v, ends, _⟩ := (failed error).ending_run answer u
            simp only [told, ends] at ended
            cases ended
          · rw [told] at ended
            rw [again wanted told]
            exact ih offer (each _) ended

theorem Probe.Comes.again {p p' : Probe σ κ α} {s t : σ} (comes : p.Comes answer s p' t)
    (noText : p.AsksNoText) (again : FindsAgain answer answer') : p.Comes answer' s p' t := by
  induction comes with
  | refl p s => exact .refl p s
  | read _ ih =>
      cases noText with
      | read each => exact .read (ih (each _))
  | write _ ih =>
      cases noText with
      | write rest => exact .write (ih rest)
  | ask answered _ ih =>
      cases noText with
      | ask wanted each => exact .ask (again wanted answered) (ih (each _))

theorem Probe.Comes.ending_run_of_told {p : Probe σ κ α} {s t u : σ} {origin : Origin} {q : Query}
    {next : Except Error (q.Offer σ κ) → Probe σ κ α} {r : Except Error (q.Offer σ κ)}
    (asks : p.Comes answer s (.ask origin q next) t)
    (told : ending (answer origin q) t = (some r, u)) :
    ending (p.run answer) s = ending ((next r).run answer) u := by
  rw [asks.ending_run, ending_run_ask, told]

/-- Who returns an error asks nobody any more. -/
theorem Probe.Returns.ending_run_again {error : Error} {p : Probe σ κ α} (returns : p.Returns error)
    (s : σ) : ending (p.run answer') s = ending (p.run answer) s := by
  induction returns generalizing s with
  | done carries => rfl
  | read _ ih => exact ih s s
  | @write state _ _ ih => exact ih state

theorem Probe.AsksNobody.not_asks {p : Probe σ κ α} (nobody : p.AsksNobody) {s t : σ}
    {origin : Origin} {q : Query} {next : Except Error (q.Offer σ κ) → Probe σ κ α} :
    ¬ p.Comes answer s (.ask origin q next) t := by
  intro comes
  induction nobody generalizing s with
  | done a => cases comes
  | read _ ih =>
      cases comes with
      | read rest => exact ih s rest
  | write _ ih =>
      cases comes with
      | write rest => exact ih rest

end Probes

/-- The way to an entry is the same with more entries behind, if who has passed passes again. -/
theorem Chain.Reaches.again {φ : Type} {probe probe' : Nat → φ → Search σ (Except Fault (Option α))}
    {place place' : Nat} {e : Entry φ} {es : List (Entry φ)} {s t : σ}
    (reaches : Chain.Reaches probe place es s place' e t)
    (passes : ∀ {place e s t}, e ∈ es → ending (probe place e.item) s = (some (.ok none), t) →
      ending (probe' place e.item) s = (some (.ok none), t)) (more : List (Entry φ)) :
    Chain.Reaches probe' place (es ++ more) s place' e t := by
  induction reaches with
  | here place e es s => exact .here place e (es ++ more) s
  | @pass place place' e e' es s t u passed _ ih =>
      refine .pass (passes List.mem_cons_self passed) (ih ?_)
      intro place e s t mem
      exact passes (List.mem_cons_of_mem _ mem)

/-! ### More factories -/

namespace Client

variable {c c' : Client σ κ} {more : List (Entry (Factory σ κ))}

/-- The second client is the first one with more converter factories behind. -/
structure Widens (c : Client σ κ) (more : List (Entry (Factory σ κ))) (c' : Client σ κ) :
    Prop where
  baseUrl : c'.baseUrl = c.baseUrl
  calls : c'.calls = c.calls
  adapters : c'.adapters = c.adapters
  converters : c'.converters.entries = c.converters.entries ++ more

namespace Widens

theorem depth_le (widens : c.Widens more c') : c.depth ≤ c'.depth := by
  have longer : c'.converters.length = c.converters.length + more.length := by
    rw [Chain.length, widens.converters, List.length_append]
    rfl
  rw [depth, depth, widens.adapters, longer]
  omega

/-- From every place on, the second client asks whom the first one asks, and then others. -/
theorem drop_entries (widens : c.Widens more c') (side : Side) (start : Nat) : ∃ others,
    (c'.chain side).entries.drop start = (c.chain side).entries.drop start ++ others := by
  cases side with
  | adapters =>
      rw [chain, chain, widens.adapters]
      exact ⟨[], (List.append_nil _).symm⟩
  | converters =>
      rw [chain, chain, widens.converters, List.drop_append]
      exact ⟨_, rfl⟩

theorem probeAt_eq (widens : c.Widens more c') (depth : Nat) (q : Query) (place : Nat)
    (f : Factory σ κ) : c'.probeAt depth q place f =
      (f.probe q ⟨place, c.baseUrl⟩).run (c'.answers depth q.side place) := by
  rw [probeAt, widens.baseUrl]

end Widens

/-- A factory that passes or offers does so again, if what it has asked for is found again. -/
theorem probeAt_again (widens : c.Widens more c') (handsOn : c.HandsOn) (noText : c.AsksNoText)
    {depth : Nat} {q : Query} {place : Nat} {e : Entry (Factory σ κ)} {s t : σ}
    {found : Option (q.Offer σ κ)} (mem : e ∈ (c.chain q.side).entries)
    (again : FindsAgain (c.answers depth q.side place) (c'.answers depth q.side place))
    (ended : ending (c.probeAt depth q place e.item) s = (some (.ok found), t)) :
    ending (c'.probeAt depth q place e.item) s = (some (.ok found), t) := by
  rw [widens.probeAt_eq]
  exact (handsOn q.side e mem q _).run_again (noText q.side e mem q _) again ended

theorem reaches_again (widens : c.Widens more c') (handsOn : c.HandsOn) (noText : c.AsksNoText)
    {depth : Nat} {q : Query} {start place : Nat} {e : Entry (Factory σ κ)} {s t : σ}
    (again : ∀ place, FindsAgain (c.answers depth q.side place) (c'.answers depth q.side place))
    (reaches : Chain.Reaches (c.probeAt depth q) start ((c.chain q.side).entries.drop start) s
      place e t) :
    Chain.Reaches (c'.probeAt depth q) start ((c'.chain q.side).entries.drop start) s
      place e t := by
  obtain ⟨others, behind⟩ := widens.drop_entries q.side start
  rw [behind]
  refine reaches.again ?_ others
  intro place e s t mem passed
  exact probeAt_again widens handsOn noText (List.mem_of_mem_drop mem) (again place) passed

/-- A first match stays the first match. -/
theorem FirstMatch.widened (widens : c.Widens more c') (handsOn : c.HandsOn)
    (noText : c.AsksNoText) {depth : Nat} {q : Query} {start : Nat} {s t : σ}
    {offer : q.Offer σ κ} (first : c.FirstMatch depth q start s offer t) :
    c'.FirstMatch depth q start s offer t := by
  -- What the factories on the way have asked for was found one level deeper.
  induction depth generalizing q start s t with
  | zero => cases first
  | succ depth ih =>
      have again : ∀ place,
          FindsAgain (c.answers depth q.side place) (c'.answers depth q.side place) := by
        intro place origin q' capability s t offer wanted found
        exact (ih (firstMatch_of_ending wanted found)).ending_search
      cases first with
      | intro reaches offers =>
          have mem := List.mem_of_mem_drop reaches.mem
          exact .intro (reaches_again widens handsOn noText again reaches)
            (probeAt_again widens handsOn noText mem (again _) offers)

theorem findsAgain (widens : c.Widens more c') (handsOn : c.HandsOn) (noText : c.AsksNoText)
    (depth : Nat) (side : Side) (place : Nat) :
    FindsAgain (c.answers depth side place) (c'.answers depth side place) := by
  intro origin q capability s t offer wanted found
  exact ((firstMatch_of_ending wanted found).widened widens handsOn noText).ending_search

/-! ### Faults that are raised -/

/-- From the state `s`, the search from the place `start` on fails because a factory raises a fault,
be it that of an inner search. What comes out is `error`. -/
inductive Raises (c : Client σ κ) : Nat → Query → Nat → σ → Error → Prop where
  | own {depth : Nat} {q : Query} {start place : Nat} {s t u : σ} {e : Entry (Factory σ κ)}
      {fault : Fault}
      (reaches : Chain.Reaches (c.probeAt depth q) start ((c.chain q.side).entries.drop start) s
        place e t)
      (raises : (e.item.probe q ⟨place, c.baseUrl⟩).Comes (c.answers depth q.side place) t
        (.done (.error fault)) u) : Raises c (depth + 1) q start s (.ofFactory e.name fault)
  | delegated {depth : Nat} {q q' : Query} {start place : Nat} {s t u : σ} {e : Entry (Factory σ κ)}
      {origin : Origin} {next : Except Error (q'.Offer σ κ) → Probe σ κ (q.Offer σ κ)}
      {error : Error}
      (reaches : Chain.Reaches (c.probeAt depth q) start ((c.chain q.side).entries.drop start) s
        place e t)
      (asks : (e.item.probe q ⟨place, c.baseUrl⟩).Comes (c.answers depth q.side place) t
        (.ask origin q' next) u)
      (inner : Raises c depth q' (startOf origin q.side place q') u error)
      (returns : (next (.error error)).Returns error) : Raises c (depth + 1) q start s error

/-- From the state `s`, the search from the place `start` on comes to the end of its chain without
an offer, or a factory asks for something, that search does, and the factory returns its failure.
What comes out is `r`. -/
inductive RunsOut (c : Client σ κ) :
    Nat → (q : Query) → Nat → σ → Except Error (q.Offer σ κ) → Prop where
  | here {depth : Nat} {q : Query} {start : Nat} {s t : σ}
      (nobody : ending (c.scanFrom depth q start) s = (some (.ok none), t)) :
      RunsOut c (depth + 1) q start s (c.unmatched start q)
  | delegated {depth : Nat} {q q' : Query} {start place : Nat} {s t u : σ} {e : Entry (Factory σ κ)}
      {origin : Origin} {next : Except Error (q'.Offer σ κ) → Probe σ κ (q.Offer σ κ)}
      {error : Error}
      (reaches : Chain.Reaches (c.probeAt depth q) start ((c.chain q.side).entries.drop start) s
        place e t)
      (asks : (e.item.probe q ⟨place, c.baseUrl⟩).Comes (c.answers depth q.side place) t
        (.ask origin q' next) u)
      (inner : RunsOut c depth q' (startOf origin q.side place q') u (.error error))
      (returns : (next (.error error)).Returns error) :
      RunsOut c (depth + 1) q start s (.error error)

/-- A failure is a fault that was raised, or a want of offers. -/
theorem Blames.raises_or_runsOut {depth : Nat} {q : Query} {start : Nat} {s : σ} {error : Error}
    (blames : c.Blames depth q start s error) :
    c.Raises depth q start s error ∨ c.RunsOut depth q start s (.error error) := by
  induction blames with
  | @exhausted depth q start s t capability wanted nobody =>
      rw [← c.unmatched_of_capability wanted start]
      exact Or.inr (.here nobody)
  | @foreign _ _ _ _ _ _ _ e fault reaches raises foreign =>
      rw [← Error.ofFactory_of_foreign foreign e.name]
      exact Or.inl (.own reaches raises)
  | @own _ _ _ _ _ _ _ e fault error reaches raises carries =>
      rw [← Error.ofFactory_of_carries carries e.name]
      exact Or.inl (.own reaches raises)
  | delegated reaches asks _ returns ih =>
      rcases ih with raises | ranOut
      · exact Or.inl (.delegated reaches asks raises returns)
      · exact Or.inr (.delegated reaches asks ranOut returns)

/-- A failure for want of offers names the shape for which there was none. -/
theorem RunsOut.resolution {depth : Nat} {q : Query} {start : Nat} {s : σ}
    {r : Except Error (q.Offer σ κ)} (ranOut : c.RunsOut depth q start s r) {error : Error}
    (failed : r = .error error) : ∃ failure, error = .resolution none failure := by
  induction ranOut generalizing error with
  | here nobody =>
      obtain ⟨capability, _, rfl⟩ := capability_of_unmatched failed
      exact ⟨_, rfl⟩
  | delegated _ _ _ _ ih =>
      cases failed
      exact ih rfl

/-- What is found without an offer is the natural text. -/
theorem RunsOut.natural {depth : Nat} {shape : Shape} {tags : Metadata} {start : Nat} {s : σ}
    {converter : StringConverter σ}
    (ranOut : c.RunsOut depth (.stringConverter shape tags) start s (.ok converter)) :
    converter = naturalTextConverter σ := by
  cases ranOut
  rfl

/-- Only what a factory asks for can be missing when texts are looked for. -/
theorem RunsOut.asks {depth : Nat} {shape : Shape} {tags : Metadata} {start : Nat} {s : σ}
    {error : Error}
    (ranOut : c.RunsOut depth (.stringConverter shape tags) start s (.error error)) :
    ∃ e ∈ c.converters.entries, ∃ l,
      ¬ (e.item.probe (.stringConverter shape tags) l).AsksNobody := by
  cases ranOut with
  | delegated reaches asks _ _ =>
      have mem := List.mem_of_mem_drop reaches.mem
      exact ⟨_, mem, _, fun nobody => nobody.not_asks asks⟩

/-- A fault stays the same fault. -/
theorem Raises.widened (widens : c.Widens more c') (handsOn : c.HandsOn) (noText : c.AsksNoText)
    {depth : Nat} {q : Query} {start : Nat} {s : σ} {error : Error}
    (raises : c.Raises depth q start s error) : ∃ t,
      ending (c.search depth q start) s = (some (.error error), t) ∧
        ending (c'.search depth q start) s = (some (.error error), t) := by
  induction raises with
  | @own depth q start place s t u e fault reaches raises =>
      have again := findsAgain widens handsOn noText depth q.side
      have mem := List.mem_of_mem_drop reaches.mem
      have raises' := raises.again (noText q.side e mem q _) (again place)
      refine ⟨u, ending_search_of_reaches reaches raises.ending_run,
        ending_search_of_reaches (reaches_again widens handsOn noText again reaches) ?_⟩
      rw [widens.probeAt_eq, raises'.ending_run]
      rfl
  | @delegated depth q q' start place s t u e origin next error reaches asks _ returns ih =>
      obtain ⟨v, told, told'⟩ := ih
      have again := findsAgain widens handsOn noText depth q.side
      have mem := List.mem_of_mem_drop reaches.mem
      have asks' := asks.again (noText q.side e mem q _) (again place)
      obtain ⟨fault, w, ends, carries⟩ := returns.ending_run (c.answers depth q.side place) v
      have fails : ending (c.probeAt depth q place e.item) t = (some (.error fault), w) :=
        (asks.ending_run_of_told told).trans ends
      have fails' : ending (c'.probeAt depth q place e.item) t = (some (.error fault), w) := by
        rw [widens.probeAt_eq]
        exact (asks'.ending_run_of_told told').trans ((returns.ending_run_again v).trans ends)
      rw [← Error.ofFactory_of_carries carries e.name]
      exact ⟨w, ending_search_of_reaches reaches fails,
        ending_search_of_reaches (reaches_again widens handsOn noText again reaches) fails'⟩

/-- A search that has ended has found a first match, or fails with a fault that was raised, or has
run out of offers. -/
theorem ending_search_cases (handsOn : c.HandsOn) {depth : Nat} {q : Query} {start : Nat} {s t : σ}
    {r : Except Error (q.Offer σ κ)} (ended : ending (c.search depth q start) s = (some r, t)) :
    (∃ offer, r = .ok offer ∧ c.FirstMatch depth q start s offer t) ∨
      (∃ error, r = .error error ∧ c.Raises depth q start s error) ∨
        c.RunsOut depth q start s r := by
  cases depth with
  | zero => cases ended
  | succ depth =>
      cases r with
      | error error =>
          rcases (blames_of_ending handsOn ended).raises_or_runsOut with raises | ranOut
          · exact Or.inr (Or.inl ⟨error, rfl, raises⟩)
          · exact Or.inr (Or.inr ranOut)
      | ok offer =>
          rw [ending_search] at ended
          rcases scan : ending (c.scanFrom depth q start) s with ⟨_ | error | _ | other, u⟩
          · rw [scan] at ended
            cases ended
          · rw [scan] at ended
            cases ended
          · rw [scan] at ended
            obtain ⟨unmatched, rfl⟩ := Prod.mk.inj ended
            rw [← Option.some.inj unmatched]
            exact Or.inr (Or.inr (.here scan))
          · rw [scan] at ended
            cases ended
            exact Or.inl ⟨offer, rfl, firstMatch_iff.mpr scan⟩

/-- What a search of the client has come to is what it comes to with more factories, unless it has
run out of offers. -/
theorem ending_search_widened (widens : c.Widens more c') (handsOn : c.HandsOn)
    (noText : c.AsksNoText) {depth depth' : Nat} (le : depth ≤ depth') {q : Query} {start : Nat}
    {s t : σ} {r : Except Error (q.Offer σ κ)}
    (ended : ending (c.search depth q start) s = (some r, t)) :
    ending (c'.search depth' q start) s = (some r, t) ∨ c.RunsOut depth q start s r := by
  rcases ending_search_cases handsOn ended with
    ⟨offer, rfl, first⟩ | ⟨error, rfl, raises⟩ | ranOut
  · exact Or.inl
      (ending_search_mono c' le (first.widened widens handsOn noText).ending_search)
  · obtain ⟨u, failed, failed'⟩ := raises.widened widens handsOn noText
    cases ended.symm.trans failed
    exact Or.inl (ending_search_mono c' le failed')
  · exact Or.inr ranOut

/-- What must be found and is found is found with more factories. -/
theorem ending_next_widened (widens : c.Widens more c') (handsOn : c.HandsOn)
    (noText : c.AsksNoText) {q : Query} {capability : Capability}
    (wanted : q.capability? = some capability) {skipPast : Option UInt64} {s t : σ}
    {offer : q.Offer σ κ} (found : ending (c.next q skipPast) s = (some (.ok offer), t)) :
    ending (c'.next q skipPast) s = (some (.ok offer), t) :=
  ending_search_mono c' widens.depth_le
    ((firstMatch_of_ending wanted found).widened widens handsOn noText).ending_search

/-- A plan that can be made is made with more factories. -/
theorem ending_planFor_widened (widens : c.Widens more c') (handsOn : c.HandsOn)
    (noText : c.AsksNoText) {id : MethodId} {e : MethodEntry σ} {s t : σ} {plan : Plan σ κ}
    (built : ending (planFor c id e) s = (some (.ok plan), t)) :
    ending (planFor c' id e) s = (some (.ok plan), t) := by
  obtain ⟨adapter, u, converter, finds, rfl⟩ := ending_planFor_eq_ok_iff.mp built
  have same : planOf c id e adapter converter = planOf c' id e adapter converter := by
    rw [planOf, planOf, widens.calls, widens.baseUrl]
  refine ending_planFor_eq_ok_iff.mpr ⟨adapter, u, converter, ?_, same⟩
  constructor
  · exact finds.wellFormed
  · exact ending_next_widened widens handsOn noText rfl finds.adapted
  · exact finds.usable
  · exact ending_next_widened widens handsOn noText rfl finds.converted

/-! ### The client with one factory more -/

theorem widens_of_derive (complete : c.Complete) {name : String} {f : Factory σ κ}
    (derived : c.derive [.converter name f] = .ok c') : c.Widens [⟨name, f⟩] c' := by
  have complete' := (ClientSettings.build_eq_ok_iff.mp derived).complete
  have grows := grows_of_derive derived
  have executor : c'.executor = c.executor := grows.executor
  have adapters : c'.userAdapters = c.userAdapters := by
    have entries := grows.adapters
    rw [show [Setting.converter name f].filterMap Setting.adapter? = [] from rfl,
      List.append_nil] at entries
    exact congrArg Chain.mk entries
  constructor
  · exact grows.baseUrl
  · exact grows.calls
  · rw [complete'.adapters, complete.adapters, executor, adapters]
  · exact (grows.derives complete complete').converters

/-- The second client differs from the first one only where searches of the first one run out of
offers. -/
structure ExtendsConservatively (c c' : Client σ κ) : Prop where
  /-- A first match stays, from any place on and at any depth. -/
  matches_same : ∀ {depth q start s t} {offer : q.Offer σ κ},
    c.FirstMatch depth q start s offer t → c'.FirstMatch depth q start s offer t
  /-- So does a fault that a factory has raised. -/
  raises_same : ∀ {depth q start s error}, c.Raises depth q start s error → ∃ t,
    ending (c.search depth q start) s = (some (.error error), t) ∧
      ending (c'.search depth q start) s = (some (.error error), t)
  /-- What ends otherwise on the second client has run out of offers on the first one. -/
  differs : ∀ {depth depth' q start s t} {r : Except Error (q.Offer σ κ)}, depth ≤ depth' →
    ending (c.search depth q start) s = (some r, t) →
      ending (c'.search depth' q start) s ≠ (some r, t) → c.RunsOut depth q start s r
  /-- Adapters and converters of bodies that a user finds are found again. -/
  finds : ∀ {q capability skipPast s t} {offer : q.Offer σ κ}, q.capability? = some capability →
    ending (c.next q skipPast) s = (some (.ok offer), t) →
      ending (c'.next q skipPast) s = (some (.ok offer), t)
  /-- Errors of what a user looks for are the same unless they are for want of offers. -/
  fails : ∀ {q skipPast s t error}, ending (c.next q skipPast) s = (some (.error error), t) →
    c.Raises c.depth q (startAfter skipPast) s error →
      ending (c'.next q skipPast) s = (some (.error error), t)
  /-- Methods are planned as before. -/
  plans : ∀ {id e s t plan}, (settleSearch (planFor c id e)).run s = (.ok plan, t) →
    (settleSearch (planFor c' id e)).run s = (.ok plan, t)
  /-- Another converter for texts is found only where there was the natural text. -/
  texts : ∀ {shape tags s t converter},
    ending (c.offer (.stringConverter shape tags)) s = (some (.ok converter), t) →
      ending (c'.offer (.stringConverter shape tags)) s ≠ (some (.ok converter), t) →
        converter = naturalTextConverter σ ∧
          c.RunsOut c.depth (.stringConverter shape tags) 0 s (.ok converter)
  /-- A search for texts that has failed ends otherwise only if a factory has asked for an adapter
  or for a converter of bodies, and there was none. -/
  textErrors : ∀ {shape tags s t error},
    ending (c.offer (.stringConverter shape tags)) s = (some (.error error), t) →
      ending (c'.offer (.stringConverter shape tags)) s ≠ (some (.error error), t) →
        c.RunsOut c.depth (.stringConverter shape tags) 0 s (.error error) ∧
          (∃ failure, error = .resolution none failure) ∧
            ∃ e ∈ c.converters.entries, ∃ l,
              ¬ (e.item.probe (.stringConverter shape tags) l).AsksNobody

/-- A client to which a converter factory is added finds what it has found, and plans what it has
planned. Only searches that have run out of offers end otherwise, those for texts included. -/
theorem extends_conservatively {settings : ClientSettings σ κ} {c : Client σ κ}
    (built : settings.build = .ok c) (handsOn : c.HandsOn) (noText : c.AsksNoText) (name : String)
    (f : Factory σ κ) :
    ∃ c', c.derive [.converter name f] = .ok c' ∧ c.ExtendsConservatively c' := by
  have complete := (ClientSettings.build_eq_ok_iff.mp built).complete
  obtain ⟨c', derived⟩ := (c.derive_isOk_iff [.converter name f]).mpr complete.baseUrl
  have widens := widens_of_derive complete derived
  refine ⟨c', derived, ?_⟩
  constructor
  case matches_same =>
    intro depth q start s t offer first
    exact first.widened widens handsOn noText
  case raises_same =>
    intro depth q start s error raises
    exact raises.widened widens handsOn noText
  case differs =>
    intro depth depth' q start s t r le ended other
    exact (ending_search_widened widens handsOn noText le ended).resolve_left other
  case finds =>
    intro q capability skipPast s t offer wanted found
    exact ending_next_widened widens handsOn noText wanted found
  case fails =>
    intro q skipPast s t error failed raises
    obtain ⟨u, failed', again⟩ := raises.widened widens handsOn noText
    cases failed.symm.trans failed'
    exact ending_search_mono c' widens.depth_le again
  case plans =>
    intro id e s t plan made
    rw [run_settleSearch_eq_ok_iff] at made ⊢
    exact ending_planFor_widened widens handsOn noText made
  case texts =>
    intro shape tags s t converter found other
    have ranOut :=
      (ending_search_widened widens handsOn noText widens.depth_le found).resolve_left other
    exact ⟨ranOut.natural, ranOut⟩
  case textErrors =>
    intro shape tags s t error failed other
    have ranOut :=
      (ending_search_widened widens handsOn noText widens.depth_le failed).resolve_left other
    exact ⟨ranOut, ranOut.resolution rfl, ranOut.asks⟩

/-- A factory that offers for bodies what a later one offers, and nothing else. -/
def forwarding (key : Nat) : Factory Unit Unit where
  key
  probe
    | .responseConverter shape tags, _ =>
      .ask .next (.responseConverter shape tags) fun
        | .ok converter => .offer converter
        | .error error => .fail (.carried error)
    | _, _ => .pass

theorem forwarding_handsOn (key : Nat) : (forwarding key).HandsOn := by
  intro q l
  cases q with
  | responseConverter shape tags => exact .ask (fun _ => .done _) fun _ => .done .carried
  | _ => exact .done _

theorem forwarding_asksNoText (key : Nat) : (forwarding key).AsksNoText := by
  intro q l
  cases q with
  | responseConverter shape tags =>
      refine .ask rfl ?_
      intro r
      cases r with
      | ok converter => exact .done _
      | error error => exact .done _
  | _ => exact .done _

/-- Settings with one converter factory. -/
def oneConverter (name : String) (f : Factory Unit Unit) : ClientSettings Unit Unit where
  baseUrl := some "http://localhost/"
  calls := some .lossy
  converters := Chain.empty.push name f

/-- Whatever holds of the factories of every client and of the one factory, holds of all. -/
theorem forall_oneConverter {P : Factory Unit Unit → Prop} {name : String} {f : Factory Unit Unit}
    {c : Client Unit Unit} (made : (oneConverter name f).build = .ok c)
    (builtIns : P (builtInConverters 0)) (default : P (defaultAdapter 0 none)) (holds : P f)
    (side : Side) : ∀ e ∈ (c.chain side).entries, P e.item := by
  cases made
  intro e mem
  cases side with
  | adapters =>
      cases List.mem_singleton.mp mem
      exact default
  | converters =>
      rcases List.mem_cons.mp mem with rfl | mem
      · exact builtIns
      · cases List.mem_singleton.mp mem
        exact holds

theorem handsOn_oneConverter {name : String} {f : Factory Unit Unit} {c : Client Unit Unit}
    (made : (oneConverter name f).build = .ok c) (handsOn : f.HandsOn) : c.HandsOn :=
  forall_oneConverter made (builtInConverters_handsOn 0) (defaultAdapter_handsOn 0 none) handsOn

theorem asksNoText_oneConverter {name : String} {f : Factory Unit Unit} {c : Client Unit Unit}
    (made : (oneConverter name f).build = .ok c) (noText : f.AsksNoText) : c.AsksNoText :=
  forall_oneConverter made (builtInConverters_asksNoText 0) (defaultAdapter_asksNoText 0 none)
    noText

/-- A factory for texts behind one that hands everything on: bodies of texts are decoded now, for
which there was nobody before. -/
theorem extends_conservatively_forwarding : ∃ c c',
    ((oneConverter "Forwarding" (forwarding 1)).build = .ok c ∧
      c.derive [.converter "Text" (textConverters 2 (.named "Text"))] = .ok c' ∧
      c.ExtendsConservatively c') ∧
    (ending (c.next (.responseConverter (.named "Text") .empty) none) ()).1.map Except.isOk =
      some false ∧
    (ending (c'.next (.responseConverter (.named "Text") .empty) none) ()).1.map Except.isOk =
      some true := by
  obtain ⟨c, made⟩ : ∃ c, (oneConverter "Forwarding" (forwarding 1)).build = .ok c := ⟨_, rfl⟩
  have handsOn := handsOn_oneConverter made (forwarding_handsOn 1)
  have noText := asksNoText_oneConverter made (forwarding_asksNoText 1)
  obtain ⟨c', derived, conservative⟩ := extends_conservatively made handsOn noText "Text"
    (textConverters 2 (.named "Text"))
  refine ⟨c, c', ⟨made, derived, conservative⟩, ?_, ?_⟩
  · cases made
    rfl
  · cases made
    cases derived
    rfl

/-- A factory that offers for texts if there is a converter for users behind it, and else hands the
failure on. -/
def asking (key : Nat) : Factory Unit Unit where
  key
  probe
    | .stringConverter _ tags, _ =>
      .ask .next (.responseConverter (.named "User") tags) fun
        | .ok _ => .offer fun argument => pure (.ok ("user " ++ argument.naturalText))
        | .error error => .fail (.carried error)
    | _, _ => .pass

theorem asking_handsOn (key : Nat) : (asking key).HandsOn := by
  intro q l
  cases q with
  | stringConverter shape tags => exact .ask (fun _ => .done _) fun _ => .done .carried
  | _ => exact .done _

theorem asking_asksNoText (key : Nat) : (asking key).AsksNoText := by
  intro q l
  cases q with
  | stringConverter shape tags =>
      refine .ask rfl ?_
      intro r
      cases r with
      | ok converter => exact .done _
      | error error => exact .done _
  | _ => exact .done _

/-- A search for texts that has not come to the natural text, but has failed, may find a converter
when a factory is added: here the one that the factory for texts had asked for. -/
theorem text_found_after_failure : ∃ c c' : Client Unit Unit,
    (oneConverter "Asking" (asking 1)).build = .ok c ∧ c.HandsOn ∧ c.AsksNoText ∧
      c.derive [.converter "User" (textConverters 2 (.named "User"))] = .ok c' ∧
      (ending (c.offer (.stringConverter (.named "Text") .empty)) ()).1 =
        some (.error (.resolution none ⟨.responseConverter, .named "User",
          ["BuiltInConverters", "Asking"], []⟩)) ∧
      (ending (c'.offer (.stringConverter (.named "Text") .empty)) ()).1.map Except.isOk =
        some true := by
  obtain ⟨c, made⟩ : ∃ c, (oneConverter "Asking" (asking 1)).build = .ok c := ⟨_, rfl⟩
  obtain ⟨c', derived⟩ : ∃ c', c.derive [.converter "User" (textConverters 2 (.named "User"))] =
      .ok c' := by
    cases made
    exact ⟨_, rfl⟩
  have handsOn := handsOn_oneConverter made (asking_handsOn 1)
  have noText := asksNoText_oneConverter made (asking_asksNoText 1)
  refine ⟨c, c', made, handsOn, noText, derived, ?_, ?_⟩
  · cases made
    rfl
  · cases made
    cases derived
    rfl

end Client

end RemoteCall
