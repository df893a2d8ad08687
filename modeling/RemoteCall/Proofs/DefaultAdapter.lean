import RemoteCall.Proofs.MadePlans
import RemoteCall.Proofs.Matching
import RemoteCall.Proofs.Rebuilding

/-!
What the default adapter makes of methods.

It comes last, so a method gets its adapter from it if no adapter factory of the user has an offer
(`Client.Unclaimed`). Callbacks are left to the callback executor if the method `hops`: if it is not
awaited and does not have the tag that asks to leave the executor out.
-/

namespace RemoteCall

variable {σ κ : Type}

/-- The callbacks of a call of the method are left to the callback executor: the caller does not
wait, and the record does not have the tag that asks to leave the executor out. -/
def MethodRecord.hops (r : MethodRecord σ) : Bool :=
  !r.isSuspend && !r.metadata.contains Metadata.skipCallbackExecutor

theorem contains_adapterTags (r : MethodRecord σ) :
    (adapterTags r).contains Metadata.skipCallbackExecutor = !r.hops := by
  rw [adapterTags, MethodRecord.hops]
  cases r.isSuspend with
  | true => simp
  | false => simp

namespace Client

variable {c : Client σ κ}

/-- The adapter that the default adapter offers for the method. -/
def callsOf (executor : Option Executor) (r : MethodRecord σ) (payload : Shape) :
    CallAdapter σ κ :=
  callItself payload (if r.hops then executor else none)

/-- What the default adapter makes of a question for an adapter when nobody is asked before it. -/
def plainAdapter (executor : Option Executor) (shape : Shape) (tags : Metadata) :
    Except Error (CallAdapter σ κ) :=
  if shape.is Shape.callName then
    match shape.param? 0 with
    | none => .error bareCall
    | some payload =>
      .ok (callItself payload
        (if tags.contains Metadata.skipCallbackExecutor then none else executor))
  else .error (.resolution none ⟨.callAdapter, shape, [], ["DefaultCallAdapterFactory"]⟩)

/-- Where the user gives no adapter factories, the default adapter decides alone. -/
theorem ending_offer_of_plain {executor : Option Executor}
    (plain : c.adapters = withDefault .empty executor) (shape : Shape) (tags : Metadata) (s : σ) :
    ending (c.offer (.callAdapter shape tags)) s =
      (some (plainAdapter executor shape tags), s) := by
  have alone : c.adapters.entries = [⟨"DefaultCallAdapterFactory", defaultAdapter 0 executor⟩] := by
    rw [plain]
    rfl
  have deep : c.depth = c.adapters.length + c.converters.length + 4095 + 1 := rfl
  have names : c.adapters.names = ["DefaultCallAdapterFactory"] := by simp [Chain.names, alone]
  rw [offer, next, deep, c.ending_search, scanFrom]
  simp only [Query.side, chain, Chain.findFrom, startAfter, alone, List.drop_zero]
  rw [ending_scan_cons, probeAt, plainAdapter]
  simp only [defaultAdapter, defaultAdapterProbe]
  by_cases called : shape.is Shape.callName
  · simp only [called, Bool.not_true, Bool.false_eq_true, if_false, if_true]
    cases shape.param? 0 with
    | none => rfl
    | some payload => rfl
  · simp only [called, Bool.not_false, if_true]
    have failure : c.adapters.exhausted .callAdapter shape 0 =
        ⟨.callAdapter, shape, [], ["DefaultCallAdapterFactory"]⟩ := by
      simp [Chain.exhausted, names]
    rw [if_neg Bool.false_ne_true, ← failure]
    rfl

/-! ### Behind the adapters of the user -/

/-- No adapter factory of the user ever has an offer for the question. -/
def Unclaimed (c : Client σ κ) (q : Query) : Prop :=
  ∀ e ∈ c.userAdapters.entries, ∀ {depth place s t offer},
    ending (c.probeAt depth q place e.item) s ≠ (some (.ok (some offer)), t)

/-- The default adapter offers a declared call, without the executor if the tags say so. -/
theorem offer_of_defaultAdapter {executor : Option Executor} {shape : Shape} {tags : Metadata}
    {offer : CallAdapter σ κ}
    (offers : defaultAdapterProbe executor (.callAdapter shape tags) = .done (.ok (some offer))) :
    offer = callItself offer.responseType
      (if tags.contains Metadata.skipCallbackExecutor then none else executor) := by
  simp only [defaultAdapterProbe] at offers
  by_cases called : shape.is Shape.callName
  · simp only [called, Bool.not_true, Bool.false_eq_true, if_false] at offers
    cases payload : shape.param? 0 with
    | none =>
        rw [payload] at offers
        cases offers
    | some payload' =>
        rw [payload] at offers
        cases offers
        rfl
  · simp only [called, Bool.not_false, if_true] at offers
    cases offers

/-- What is offered where the user has no offer is that of the default adapter. -/
theorem FirstMatch.of_unclaimed (complete : c.Complete) {depth : Nat} {shape : Shape}
    {tags : Metadata} {start : Nat} {s t : σ} {offer : CallAdapter σ κ}
    (unclaimed : c.Unclaimed (.callAdapter shape tags))
    (first : c.FirstMatch depth (.callAdapter shape tags) start s offer t) :
    offer = callItself offer.responseType
      (if tags.contains Metadata.skipCallbackExecutor then none else c.executor) := by
  cases first with
  | @intro depth _ _ place _ u _ e _ reaches offers =>
      have mem : e ∈ c.adapters.entries := List.mem_of_mem_drop reaches.mem
      rw [complete.entries_adapters] at mem
      rcases List.mem_append.mp mem with ofUser | last
      · exact absurd offers (unclaimed e ofUser)
      · cases List.mem_singleton.mp last
        obtain ⟨a, done, _⟩ := defaultAdapterProbe_done (σ := σ) (κ := κ) c.executor
          (.callAdapter shape tags)
        have probed :
            c.probeAt depth (.callAdapter shape tags) place (defaultAdapter 0 c.executor) =
              (defaultAdapterProbe c.executor (.callAdapter shape tags)).run
                (c.answers depth .adapters place) := rfl
        simp only [probed, done] at offers
        cases offers
        exact offer_of_defaultAdapter done

/-- A plan for a method on which the user has no claim adapts its calls as the default adapter
does. -/
theorem Made.callAdapter_eq (complete : c.Complete) {entry : MethodEntry σ} {plan : Plan σ κ}
    (made : c.Made entry plan)
    (unclaimed : c.Unclaimed (.callAdapter (adapterShape entry.record.convention)
      (adapterTags entry.record))) :
    plan.callAdapter = callsOf c.executor entry.record plan.responseType := by
  obtain ⟨id, s, built⟩ := made
  have ended := run_settleSearch_eq_ok_iff.mp (Prod.ext built rfl)
  obtain ⟨adapter, t, converter, finds, rfl⟩ := ending_planFor_eq_ok_iff.mp ended
  have offered := (firstMatch_of_ending rfl finds.adapted).of_unclaimed complete unclaimed
  have tags : (if (adapterTags entry.record).contains Metadata.skipCallbackExecutor then none
      else c.executor) = if entry.record.hops then c.executor else none := by
    rw [contains_adapterTags]
    cases entry.record.hops with
    | true => rfl
    | false => rfl
  rw [tags] at offered
  exact offered

end Client

end RemoteCall
