import RemoteCall.Proofs.Blame

/-!
Who is asked in a search, and what comes of it.

`noting` keeps a list of the factories that a search asks beside the plug-in state; nothing else
changes by that. `Chain.Account` says what stands in the list after a search from a place on: the
entries from that place on, in order, each once and with its own place, up to the first that does
not pass. What the search comes to is the answer of the last one asked (`Chain.Verdict`).
`Chain.Settled` says what a search makes of it that must find something. `asks_in_order` puts these
together, and says the same of the searches of a client: they hand each factory its own place.
-/

namespace RemoteCall

variable {σ κ φ α : Type}

/-- A factory that was asked. -/
structure Visit (φ α : Type) where
  /-- The place that it was told. -/
  place : Nat
  item : φ
  /-- What it has answered, if the probe has ended. -/
  answer : Option (Except Fault (Option α))

/-- The probe, with the factories asked noted beside the plug-in state. -/
def noting (probe : Nat → φ → Search σ (Except Fault (Option α))) (place : Nat) (item : φ) :
    Search (σ × List (Visit φ α)) (Except Fault (Option α)) :=
  OptionT.mk fun (s, visits) =>
    let (answer, t) := ending (probe place item) s
    (answer, (t, visits ++ [⟨place, item, answer⟩]))

theorem ending_noting (probe : Nat → φ → Search σ (Except Fault (Option α))) (place : Nat)
    (item : φ) (s : σ) (visits : List (Visit φ α)) :
    ending (noting probe place item) (s, visits) = ((ending (probe place item) s).1,
      ((ending (probe place item) s).2,
        visits ++ [⟨place, item, (ending (probe place item) s).1⟩])) := rfl

namespace Chain

variable {c : Chain φ} {probe : Nat → φ → Search σ (Except Fault (Option α))}

/-- What a search from `start` on has come to, by the answer of the last factory that it asked. -/
inductive Verdict (c : Chain φ) (start : Nat) (visits : List (Visit φ α)) :
    Option (Except Error (Option α)) → Prop where
  /-- All the factories from `start` on were asked, and pass. -/
  | exhausted (all : visits.length = c.length - start)
      (passed : ∀ v ∈ visits, v.answer = some (.ok none)) : Verdict c start visits (some (.ok none))
  | matched {v : Visit φ α} {found : α} (last : visits.getLast? = some v)
      (answer : v.answer = some (.ok (some found))) :
      Verdict c start visits (some (.ok (some found)))
  /-- The fault is an error of the library, which comes out as it is. -/
  | carried {v : Visit φ α} {fault : Fault} {error : Error} (last : visits.getLast? = some v)
      (answer : v.answer = some (.error fault)) (carries : fault.Carries error) :
      Verdict c start visits (some (.error error))
  /-- Any other fault is reported under the name of the factory. -/
  | foreign {v : Visit φ α} {fault : Fault} {name : String} (last : visits.getLast? = some v)
      (answer : v.answer = some (.error fault)) (foreign : ∀ error, ¬ fault.Carries error)
      (named : c.name? v.place = some name) :
      Verdict c start visits (some (.error (.factory none name fault)))
  /-- The probe does not end, and neither does the search. -/
  | endless {v : Visit φ α} (last : visits.getLast? = some v) (answer : v.answer = none) :
      Verdict c start visits none

/-- Who was asked in a search from `start` on that has come to `found`. -/
structure Account (c : Chain φ) (probe : Nat → φ → Search σ (Except Fault (Option α)))
    (start : Nat) (visits : List (Visit φ α)) (found : Option (Except Error (Option α))) :
    Prop where
  /-- The places are those from `start` on, in order, each once. -/
  places : visits.map Visit.place = List.range' start visits.length
  /-- Each factory is told its own place. -/
  own : ∀ v ∈ visits, c.get? v.place = some v.item
  /-- The answers are those of the probe. -/
  told : ∀ v ∈ visits, ∃ s, v.answer = (ending (probe v.place v.item) s).1
  /-- All but the last one pass. -/
  passed : ∀ v ∈ visits.dropLast, v.answer = some (.ok none)
  verdict : c.Verdict start visits found

theorem Verdict.cons {start : Nat} {visits : List (Visit φ α)} {v : Visit φ α}
    {found : Option (Except Error (Option α))} (verdict : c.Verdict (start + 1) visits found)
    (inside : start < c.length) (passes : v.answer = some (.ok none)) :
    c.Verdict start (v :: visits) found := by
  have same : ∀ {w}, visits.getLast? = some w → (v :: visits).getLast? = some w := by
    intro w last
    rw [List.getLast?_cons, last]
    rfl
  cases verdict with
  | exhausted all passed =>
      refine .exhausted ?_ (List.forall_mem_cons.mpr ⟨passes, passed⟩)
      rw [List.length_cons, all]
      omega
  | matched last answer => exact .matched (same last) answer
  | carried last answer carries => exact .carried (same last) answer carries
  | foreign last answer foreign named => exact .foreign (same last) answer foreign named
  | endless last answer => exact .endless (same last) answer

namespace Account

/-- Nobody is left to be asked. -/
theorem nil {start : Nat} (outside : c.length ≤ start) :
    c.Account probe start [] (some (.ok none)) where
  places := rfl
  own := List.forall_mem_nil _
  told := List.forall_mem_nil _
  passed := List.forall_mem_nil _
  verdict := .exhausted (Nat.sub_eq_zero_of_le outside).symm (List.forall_mem_nil _)

/-- One factory is asked. -/
theorem single {start : Nat} {e : Entry φ} (there : c.entries[start]? = some e) {s : σ}
    {answer : Option (Except Fault (Option α))}
    (asked : (ending (probe start e.item) s).1 = answer)
    {found : Option (Except Error (Option α))}
    (verdict : c.Verdict start [⟨start, e.item, answer⟩] found) :
    c.Account probe start [⟨start, e.item, answer⟩] found where
  places := rfl
  own := by
    rw [List.forall_mem_singleton, get?, there]
    rfl
  told := List.forall_mem_singleton.mpr ⟨s, asked.symm⟩
  passed := List.forall_mem_nil _
  verdict := verdict

/-- One factory is asked and passes, then the later ones are asked. -/
theorem cons {start : Nat} {e : Entry φ} (there : c.entries[start]? = some e) {s : σ}
    (passes : (ending (probe start e.item) s).1 = some (.ok none)) {visits : List (Visit φ α)}
    {found : Option (Except Error (Option α))} (later : c.Account probe (start + 1) visits found) :
    c.Account probe start (⟨start, e.item, some (.ok none)⟩ :: visits) found where
  places := by rw [List.map_cons, later.places, List.length_cons, List.range'_succ]
  own := by
    refine List.forall_mem_cons.mpr ⟨?_, later.own⟩
    rw [get?, there]
    rfl
  told := List.forall_mem_cons.mpr ⟨⟨s, passes.symm⟩, later.told⟩
  passed := by
    cases visits with
    | nil => exact List.forall_mem_nil _
    | cons v visits =>
        rw [List.dropLast_cons_cons]
        exact List.forall_mem_cons.mpr ⟨rfl, later.passed⟩
  verdict := later.verdict.cons (List.getElem?_eq_some_iff.mp there).1 rfl

/-- The search ends if the probes of the factories do that it asks. -/
theorem isSome {start : Nat} {visits : List (Visit φ α)} {found : Option (Except Error (Option α))}
    (account : c.Account probe start visits found)
    (ends : ∀ place item, start ≤ place → c.get? place = some item →
      ∀ s, (ending (probe place item) s).1.isSome = true) :
    found.isSome = true := by
  cases account.verdict with
  | @endless v last answer =>
      have mem := List.mem_of_getLast? last
      have place : v.place ∈ List.range' start visits.length :=
        account.places ▸ List.mem_map_of_mem mem
      obtain ⟨s, told⟩ := account.told v mem
      have := ends v.place v.item (List.mem_range'_1.mp place).1 (account.own v mem) s
      rw [← told, answer] at this
      cases this
  | _ => rfl

/-- If the chain is exhausted, the places asked are all from `start` on. -/
theorem places_of_exhausted {start : Nat} {visits : List (Visit φ α)}
    (account : c.Account probe start visits (some (.ok none))) :
    visits.map Visit.place = List.range' start (c.length - start) := by
  cases account.verdict with
  | exhausted all _ => rw [account.places, all]

end Account

/-- A fault ends the search with the error that it carries, or under the name of the factory. -/
theorem Verdict.of_fault {start : Nat} {e : Entry φ} (there : c.entries[start]? = some e)
    {fault : Fault} {v : Visit φ α} (place : v.place = start)
    (answer : v.answer = some (.error fault)) :
    c.Verdict start [v] (some (.error (.ofFactory e.name fault))) := by
  by_cases carried : ∃ error, fault.Carries error
  · obtain ⟨error, carries⟩ := carried
    rw [Error.ofFactory_of_carries carries]
    exact .carried List.getLast?_singleton answer carries
  · have foreign := not_exists.mp carried
    rw [Error.ofFactory_of_foreign foreign]
    refine .foreign List.getLast?_singleton answer foreign ?_
    rw [name?, place, there]
    rfl

/-- A scan whose visits are noted comes to the same, and the notes give account of it. -/
theorem account_scan (c : Chain φ) (probe : Nat → φ → Search σ (Except Fault (Option α)))
    (start : Nat) {es : List (Entry φ)} (rest : c.entries.drop start = es) (s : σ)
    (noted : List (Visit φ α)) :
    ∃ found visits t, ending (scan (noting probe) start es) (s, noted) =
        (found, (t, noted ++ visits)) ∧
      ending (scan probe start es) s = (found, t) ∧ c.Account probe start visits found := by
  -- The place of the first entry left grows with each entry that passes.
  induction es generalizing start s noted with
  | nil =>
      refine ⟨some (.ok none), [], s, ?_, rfl, .nil (List.drop_eq_nil_iff.mp rest)⟩
      rw [List.append_nil]
      rfl
  | cons e es ih =>
      have there : c.entries[start]? = some e := by
        rw [← List.head?_drop, rest]
        rfl
      have later : c.entries.drop (start + 1) = es := by
        rw [← List.tail_drop, rest]
        rfl
      rw [ending_scan_cons, ending_scan_cons, ending_noting]
      rcases asked : ending (probe start e.item) s with ⟨_ | fault | _ | found, t⟩
      · exact ⟨none, _, t, rfl, rfl, .single there (congrArg Prod.fst asked) (.endless rfl rfl)⟩
      · exact ⟨_, _, t, rfl, rfl, .single there (congrArg Prod.fst asked) (.of_fault there rfl rfl)⟩
      · obtain ⟨found, visits, u, ended, ended', account⟩ :=
          ih (start + 1) later t (noted ++ [⟨start, e.item, some (.ok none)⟩])
        rw [List.append_assoc, List.singleton_append] at ended
        exact ⟨found, _, u, ended, ended', account.cons there (congrArg Prod.fst asked)⟩
      · exact ⟨_, _, t, rfl, rfl, .single there (congrArg Prod.fst asked) (.matched rfl rfl)⟩

/-! ### Searches that must find something -/

/-- What a search that must find something makes of what was found. -/
inductive Settled (c : Chain φ) (capability : Capability) (shape : Shape) (start : Nat)
    (visits : List (Visit φ α)) : Except Error (Option α) → Except Error α → Prop where
  | found (offer : α) : Settled c capability shape start visits (.ok (some offer)) (.ok offer)
  | failed (error : Error) : Settled c capability shape start visits (.error error) (.error error)
  /-- The names are those of the chain: first the ones passed over, then the ones asked. -/
  | exhausted {skipped tried : List String} (names : skipped ++ tried = c.names)
      (passedOver : skipped.length = min start c.length)
      (asked : tried.map some = visits.map fun v => c.name? v.place) :
      Settled c capability shape start visits (.ok none)
        (.error (.resolution none ⟨capability, shape, skipped, tried⟩))

/-- The result of a search that must find something. -/
def settle (c : Chain φ) (capability : Capability) (shape : Shape) (start : Nat) :
    Except Error (Option α) → Except Error α
  | .ok (some found) => .ok found
  | .ok none => .error (.resolution none (c.exhausted capability shape start))
  | .error error => .error error

theorem resolveFrom_eq (c : Chain φ) (capability : Capability) (shape : Shape) (start : Nat)
    (probe : Nat → φ → Search σ (Except Fault (Option α))) :
    c.resolveFrom capability shape start probe =
      do return c.settle capability shape start (← c.findFrom start probe) := by
  unfold resolveFrom
  congr 1
  funext found
  rcases found with _ | _ | _
  · rfl
  · rfl
  · rfl

theorem ending_resolveFrom (c : Chain φ) (capability : Capability) (shape : Shape) (start : Nat)
    (probe : Nat → φ → Search σ (Except Fault (Option α))) (s : σ) :
    ending (c.resolveFrom capability shape start probe) s =
      ((ending (c.findFrom start probe) s).1.map (c.settle capability shape start),
        (ending (c.findFrom start probe) s).2) := by
  rw [resolveFrom_eq, ending_bind]
  rcases ending (c.findFrom start probe) s with ⟨_ | found, t⟩
  · rfl
  · rfl

/-- The names from a place on are those at the places from there on. -/
theorem map_some_drop_names (c : Chain φ) (start : Nat) :
    (c.names.drop start).map some = (List.range' start (c.length - start)).map c.name? := by
  apply List.ext_getElem
  · simp only [names, length, List.length_map, List.length_drop, List.length_range']
  · intro i _ _
    simp only [names, name?, List.getElem_map, List.getElem_drop, List.getElem_range', Nat.one_mul]
    rw [List.getElem?_eq_getElem, Option.map_some]

theorem settled_settle {capability : Capability} {shape : Shape} {start : Nat}
    {visits : List (Visit φ α)} {found : Except Error (Option α)}
    (account : c.Account probe start visits (some found)) :
    c.Settled capability shape start visits found (c.settle capability shape start found) := by
  rcases found with error | _ | offer
  · exact .failed error
  · refine .exhausted (List.take_append_drop start c.names) ?_ ?_
    · rw [List.length_take, names, List.length_map]
      rfl
    · rw [map_some_drop_names, ← account.places_of_exhausted, List.map_map]
      rfl
  · exact .found offer

/-- The searches of a chain after a place: who is asked, and what they come to. -/
structure AsksInOrder (c : Chain φ) (probe : Nat → φ → Search σ (Except Fault (Option α)))
    (capability : Capability) (shape : Shape) (skipPast : Option UInt64) (s t : σ)
    (visits : List (Visit φ α)) (found : Option (Except Error (Option α)))
    (resolved : Option (Except Error α)) : Prop where
  /-- The search and the factories that it asks. -/
  finds : ending (c.find skipPast (noting probe)) (s, []) = (found, (t, visits))
  /-- Without the notes, the search comes to the same. -/
  unnoted : ending (c.find skipPast probe) s = (found, t)
  account : c.Account probe (skipPast.elim 0 (·.toNat + 1)) visits found
  /-- If all probes end, so does the search. -/
  ends : (∀ place item s, (ending (probe place item) s).1.isSome = true) → found.isSome = true
  /-- A search that must find something asks the same factories. -/
  resolves : ending (c.resolve capability shape skipPast (noting probe)) (s, []) =
    (resolved, (t, visits))
  resolvesUnnoted : ending (c.resolve capability shape skipPast probe) s = (resolved, t)
  settled : Option.Rel (c.Settled capability shape (skipPast.elim 0 (·.toNat + 1)) visits)
    found resolved

theorem startAfter_eq {skipPast : Option UInt64}
    (fits : ∀ p, skipPast = some p → p.toNat + 1 < UInt64.size) :
    startAfter skipPast = skipPast.elim 0 (·.toNat + 1) := by
  cases skipPast with
  | none => rfl
  | some p => exact startAfter_some (fits p rfl)

theorem exists_asksInOrder (c : Chain φ) (probe : Nat → φ → Search σ (Except Fault (Option α)))
    (capability : Capability) (shape : Shape) {skipPast : Option UInt64}
    (fits : ∀ p, skipPast = some p → p.toNat + 1 < UInt64.size) (s : σ) :
    ∃ t visits found resolved,
      c.AsksInOrder probe capability shape skipPast s t visits found resolved := by
  obtain ⟨found, visits, t, noted, ended, account⟩ :=
    c.account_scan probe (startAfter skipPast) rfl s []
  refine ⟨t, visits, found, found.map (c.settle capability shape (startAfter skipPast)), {
    finds := noted
    unnoted := ended
    account := startAfter_eq fits ▸ account
    ends := fun ends => account.isSome fun place item _ _ => ends place item
    resolves := ?_
    resolvesUnnoted := ?_
    settled := ?_ }⟩
  · have same := c.ending_resolveFrom capability shape (startAfter skipPast) (noting probe) (s, [])
    rw [findFrom, noted] at same
    exact same
  · have same := c.ending_resolveFrom capability shape (startAfter skipPast) probe s
    rw [findFrom, ended] at same
    exact same
  · rw [← startAfter_eq fits]
    cases found with
    | none => exact .none
    | some found => exact .some (settled_settle account)

/-- Scans of entries that have the same names and, each at its place, the same probes are the
same. -/
theorem scan_congr {probe' : Nat → φ → Search σ (Except Fault (Option α))} {start : Nat}
    {es es' : List (Entry φ)} (names : es'.map Entry.name = es.map Entry.name)
    (alike : ∀ i e e', es[i]? = some e → es'[i]? = some e' →
      probe' (start + i) e'.item = probe (start + i) e.item) :
    scan probe' start es' = scan probe start es := by
  induction es generalizing start es' with
  | nil =>
      cases List.map_eq_nil_iff.mp names
      rfl
  | cons e es ih =>
      obtain ⟨e', es', rfl, name, others⟩ := List.map_eq_cons_iff.mp names
      have later : scan probe' (start + 1) es' = scan probe (start + 1) es :=
        ih others fun i f f' there there' => by
          have := alike (i + 1) f f' there there'
          rwa [← Nat.add_assoc, Nat.add_right_comm] at this
      have first : probe' start e'.item = probe start e.item := alike 0 e e' rfl rfl
      rw [scan, scan, first, later, name]

end Chain

/-! ### The searches of a client -/

namespace Client

variable {c c' : Client σ κ}

/-- The factories of both clients have the same names and, each at its own place, the same
probes. -/
structure AlikeInPlace (c c' : Client σ κ) : Prop where
  baseUrl : c'.baseUrl = c.baseUrl
  names : ∀ side, (c'.chain side).names = (c.chain side).names
  probes : ∀ {q place f f'}, (c.chain q.side).get? place = some f →
    (c'.chain q.side).get? place = some f' →
      f'.probe q ⟨place, c.baseUrl⟩ = f.probe q ⟨place, c.baseUrl⟩

namespace AlikeInPlace

theorem unmatched_eq (alike : c.AlikeInPlace c') (start : Nat) (q : Query) :
    c'.unmatched start q = c.unmatched start q := by
  cases wanted : q.capability? with
  | some capability =>
      rw [c'.unmatched_of_capability wanted, c.unmatched_of_capability wanted, alike.names]
  | none =>
      cases q with
      | stringConverter shape tags => rfl
      | callAdapter shape tags => cases wanted
      | responseConverter shape tags => cases wanted
      | requestConverter shape parameter method => cases wanted

theorem conclude_eq (alike : c.AlikeInPlace c') (q : Query) (start : Nat) :
    c'.conclude q start = c.conclude q start := by
  funext found
  rcases found with error | _ | offer
  · rfl
  · exact alike.unmatched_eq start q
  · rfl

theorem search_eq (alike : c.AlikeInPlace c') (depth : Nat) :
    c'.search depth = c.search depth := by
  -- The questions of the factories are searched for one level deeper.
  induction depth with
  | zero => rfl
  | succ depth ih =>
      funext q start
      have scans : c'.scanFrom depth q start = c.scanFrom depth q start := by
        refine Chain.scan_congr ?_ fun i e e' there there' => ?_
        · rw [List.map_drop, List.map_drop]
          exact congrArg (List.drop start) (alike.names q.side)
        · rw [List.getElem?_drop] at there there'
          have probes : e'.item.probe q ⟨start + i, c.baseUrl⟩ =
              e.item.probe q ⟨start + i, c.baseUrl⟩ :=
            alike.probes (by rw [Chain.get?, there]; rfl) (by rw [Chain.get?, there']; rfl)
          unfold probeAt answers
          rw [alike.baseUrl, probes, ih]
      rw [search_succ, search_succ, scans, alike.conclude_eq]

theorem length_eq (alike : c.AlikeInPlace c') (side : Side) :
    (c'.chain side).length = (c.chain side).length := by
  have := congrArg List.length (alike.names side)
  rwa [Chain.names, Chain.names, List.length_map, List.length_map] at this

theorem depth_eq (alike : c.AlikeInPlace c') : c'.depth = c.depth := by
  have adapters : c'.adapters.length = c.adapters.length := alike.length_eq .adapters
  have converters : c'.converters.length = c.converters.length := alike.length_eq .converters
  rw [depth, depth, adapters, converters]

end AlikeInPlace

theorem search_of_capability (c : Client σ κ) {q : Query} {capability : Capability}
    (wanted : q.capability? = some capability) (depth start : Nat) :
    c.search (depth + 1) q start =
      (c.chain q.side).resolveFrom capability q.shape start (c.probeAt depth q) := by
  rw [search_succ, Chain.resolveFrom_eq]
  congr 1
  funext found
  rcases found with error | _ | offer
  · rfl
  · exact congrArg pure (c.unmatched_of_capability wanted start)
  · rfl

theorem search_text (c : Client σ κ) (shape : Shape) (tags : Metadata) (depth start : Nat) :
    c.search (depth + 1) (.stringConverter shape tags) start = do
      return (← c.converters.findFrom start (c.probeAt depth (.stringConverter shape tags))).map
        (·.getD (naturalTextConverter σ)) := by
  rw [search_succ]
  congr 1
  funext found
  rcases found with error | _ | offer
  · rfl
  · rfl
  · rfl

/-- The searches of a client after a place are searches of its chains, in which each factory is
asked with its own place there. -/
structure HandsOwnPlaces (c : Client σ κ) (skipPast : Option UInt64) : Prop where
  resolves : ∀ {q capability}, q.capability? = some capability → ∀ depth,
    c.search (depth + 1) q (startAfter skipPast) =
      (c.chain q.side).resolve capability q.shape skipPast (c.probeAt depth q)
  /-- Texts that no factory offers have their natural form. -/
  texts : ∀ shape tags depth,
    c.search (depth + 1) (.stringConverter shape tags) (startAfter skipPast) = do
      return (← c.converters.find skipPast (c.probeAt depth (.stringConverter shape tags))).map
        (·.getD (naturalTextConverter σ))
  /-- What a factory would answer at any other place is of no consequence. -/
  own : ∀ {c'}, c.AlikeInPlace c' → ∀ q, c'.next q skipPast = c.next q skipPast
  /-- A factory that asks its own chain onward asks for what comes after its own place. -/
  onward : ∀ {place : UInt64}, place.toNat + 1 < UInt64.size → ∀ depth q,
    c.answers depth q.side place.toNat .next q = c.search depth q (startAfter (some place))

theorem handsOwnPlaces (c : Client σ κ) (skipPast : Option UInt64) : c.HandsOwnPlaces skipPast where
  resolves wanted depth := c.search_of_capability wanted depth (startAfter skipPast)
  texts shape tags depth := c.search_text shape tags depth (startAfter skipPast)
  own alike q := by rw [next, next, alike.depth_eq, alike.search_eq]
  onward fits depth q := by rw [answers, startOf, if_pos rfl, startAfter_some fits]

end Client

/-- The factories of a chain are asked in order, each once and with its own place, up to the first
that does not pass; its answer is what the search comes to. The searches of a client are such
searches. -/
theorem asks_in_order (chain : Chain φ) (probe : Nat → φ → Search σ (Except Fault (Option α)))
    (capability : Capability) (shape : Shape) (client : Client σ κ) (skipPast : Option UInt64)
    (fits : ∀ p, skipPast = some p → p.toNat + 1 < UInt64.size) :
    (∀ s, ∃ t visits found resolved,
      chain.AsksInOrder probe capability shape skipPast s t visits found resolved) ∧
      client.HandsOwnPlaces skipPast :=
  ⟨chain.exists_asksInOrder probe capability shape fits, client.handsOwnPlaces skipPast⟩

/-- A chain of three factories, which are the answers that they give. -/
def threeAnswers : Chain (Except Fault (Option Nat)) :=
  ⟨[⟨"First", .ok (some 1)⟩, ⟨"Second", .ok none⟩, ⟨"Third", .error (.plain "out of order")⟩]⟩

/-- Each factory counts how often it was asked, then answers. -/
def counted (_ : Nat) (answer : Except Fault (Option Nat)) :
    Search Nat (Except Fault (Option Nat)) := do
  modify (· + 1)
  return answer

/-- A client without factories of the user, whose plug-in state is a count. -/
def countingClient : Client Nat Unit := localClient .empty false

/-- After the first place, the second factory passes and the third one fails under its name. -/
theorem asks_in_order_after_first : (∃ visits,
    threeAnswers.AsksInOrder counted .callAdapter .unit (some 0) 0 2 visits
      (some (.error (.factory none "Third" (.plain "out of order"))))
      (some (.error (.factory none "Third" (.plain "out of order")))) ∧
    visits.map Visit.place = [1, 2]) ∧ countingClient.HandsOwnPlaces (some 0) := by
  have fits : ∀ p : UInt64, some 0 = some p → p.toNat + 1 < UInt64.size := by
    intro p same
    cases same
    decide
  obtain ⟨asks, hands⟩ :=
    asks_in_order threeAnswers counted .callAdapter .unit countingClient (some 0) fits
  obtain ⟨t, visits, found, resolved, inOrder⟩ := asks 0
  obtain ⟨rfl, rfl, rfl⟩ : found = some (.error (.factory none "Third" (.plain "out of order"))) ∧
      t = 2 ∧ visits = [⟨1, .ok none, some (.ok none)⟩,
        ⟨2, .error (.plain "out of order"), some (.error (.plain "out of order"))⟩] := by
    cases inOrder.finds
    exact ⟨rfl, rfl, rfl⟩
  obtain rfl : resolved = some (.error (.factory none "Third" (.plain "out of order"))) := by
    cases inOrder.resolvesUnnoted
    rfl
  exact ⟨⟨_, inOrder, rfl⟩, hands⟩

end RemoteCall
