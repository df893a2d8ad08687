import RemoteCall.Proofs.Classification
import RemoteCall.Proofs.DecodedByStatus
import RemoteCall.Proofs.LazyInvocation

/-!
Payloads that say nothing: the marker for no content, and the unit value.

The built-in converters make the marker of any body, and they are asked first, so a method that
awaits such a payload never depends on the bytes that were sent (`Client.Made.run_converter`). But
whether there is a body to convert is decided by the status alone: for 204 and 205 no converter is
run, and then an await brings nothing, or fails if the method is not nullable, although nothing was
all that was asked for. `marked_unless_bodiless` says so for all other statuses of success too.
-/

namespace RemoteCall

variable {σ κ : Type}

/-- The payload is the one value of a shape that says nothing. -/
inductive Shape.Marked : Shape → Payload → Prop where
  | noContent {shape : Shape} (named : shape.raw? = some Shape.noContentName) :
      Marked shape .noContent
  | unit : Marked .unit .unit

/-- The built-in converters make the marker of any body. -/
theorem builtInProbe_of_marked {shape : Shape} {marker : Payload} (marked : shape.Marked marker)
    (tags : Metadata) : ∃ converter : ResponseConverter σ,
      (builtInProbe (.responseConverter shape tags) : Probe σ κ (ResponseConverter σ)) =
        .offer converter ∧ ∀ body s, (converter body).run s = (.ok marker, s) := by
  cases marked with
  | noContent named =>
      refine ⟨discardBody, ?_, fun _ _ => rfl⟩
      have other : ¬ shape.is Shape.responseBodyName = true := by
        rw [Shape.is_iff, named]
        decide
      rw [builtInProbe, if_neg other, if_pos (Shape.is_iff.mpr named)]
  | unit => exact ⟨discardBodyAsUnit, rfl, fun _ _ => rfl⟩

namespace Client

variable {c : Client σ κ} {user : Chain (Factory σ κ)}

/-- The built-in converters are asked first, and have an offer. -/
theorem ending_offer_of_marked (first : c.converters = withBuiltIns user) {shape : Shape}
    {marker : Payload} (marked : shape.Marked marker) (tags : Metadata) (s : σ) :
    ∃ converter : ResponseConverter σ,
      ending (c.offer (.responseConverter shape tags)) s = (some (.ok converter), s) ∧
        ∀ body t, (converter body).run t = (.ok marker, t) := by
  obtain ⟨converter, offers, marks⟩ := builtInProbe_of_marked (κ := κ) marked tags
  refine ⟨converter, ?_, marks⟩
  have entries : (c.chain (Query.responseConverter shape tags).side).entries =
      ⟨"BuiltInConverters", builtInConverters 0⟩ :: user.entries := congrArg Chain.entries first
  have probe : (builtInConverters 0 : Factory σ κ).probe (.responseConverter shape tags)
      ⟨0, c.baseUrl⟩ = .done (.ok (some converter)) := offers
  rw [offer, next, depth, startAfter, ending_search, scanFrom, Chain.findFrom, entries,
    List.drop_zero, ending_scan_cons, probeAt, probe]
  rfl

/-- A client without adapter factories of the user has a plan for every method that declares such a
payload, if a response to the verb can have it. -/
theorem exists_made_of_marked (first : c.converters = withBuiltIns user)
    (plain : c.adapters = withDefault .empty c.executor) {entry : MethodEntry σ} {shape : Shape}
    {variant : Variant} (declares : entry.record.Declares shape variant)
    (admits : entry.record.verb.Admits shape) {marker : Payload} (marked : shape.Marked marker)
    (s : σ) : ∃ plan, c.Made entry plan ∧ plan.responseType = shape ∧ plan.variant = variant := by
  obtain ⟨converter, found, _⟩ := c.ending_offer_of_marked first marked entry.record.metadata s
  have built := run_build_of_match plain declares admits (firstMatch_of_ending rfl found) ⟨0⟩
  exact ⟨_, ⟨⟨0⟩, s, congrArg Prod.fst built⟩, rfl, rfl⟩

/-- The converter of a plan for such a payload makes the marker of any body. -/
theorem Made.run_converter (first : c.converters = withBuiltIns user) {entry : MethodEntry σ}
    {plan : Plan σ κ} (made : c.Made entry plan) {marker : Payload}
    (marked : plan.responseType.Marked marker) (body : ResponseBody) (s : σ) :
    (plan.responseConverter body).run s = (.ok marker, s) := by
  obtain ⟨id, t, built⟩ := made
  have ended := run_settleSearch_eq_ok_iff.mp (Prod.ext built rfl)
  obtain ⟨adapter, t, converter, finds, rfl⟩ := ending_planFor_eq_ok_iff.mp ended
  obtain ⟨offered, found, marks⟩ := ending_offer_of_marked first marked entry.record.metadata t
  have converted := finds.converted
  rw [show adapter.responseType = (planOf c id entry adapter converter).responseType from rfl,
    found] at converted
  cases converted
  exact marks body s

end Client

/-- What an await of a payload that says nothing is ready with when a successful response comes. -/
structure MarkedUnlessBodiless (plan : Plan σ κ) (entry : MethodEntry σ) (raw : RawResponse)
    (marker : Payload) (s : σ) (outcome : Outcome) : Prop where
  /-- The plug-ins are not touched. -/
  parsed : (parseResponse plan.responseConverter raw).run s = (outcome, s)
  marked : ∀ {history b}, Run Bridge.step? { purpose := Engine.purposeOf plan false } history b →
    Happened history (.invoke outcome) → ¬ raw.Bodiless →
      ∀ result ∈ b.results, result = .ok (.value (some marker))
  /-- There is no marker where there is no body. -/
  unmarked : ∀ {history b}, Run Bridge.step? { purpose := Engine.purposeOf plan false } history b →
    Happened history (.invoke outcome) → raw.Bodiless → ∀ result ∈ b.results,
      result = if entry.record.nullable then .ok (.value none)
        else .error (.missingBody entry.qualified)
  /-- The next poll after the response has come is ready. -/
  resumes : ∀ {history b}, Run Bridge.step? { purpose := Engine.purposeOf plan false } history b →
    Happened history (.invoke outcome) → b.results = [] → b.present = true →
      (¬ raw.Bodiless → b.ReadyWith (.ok (.value (some marker)))) ∧
      (raw.Bodiless → b.ReadyWith (if entry.record.nullable then .ok (.value none)
        else .error (.missingBody entry.qualified)))

/-- A method that awaits a payload which says nothing gets the marker for every successful response
with any body, unless the status is 204 or 205. -/
theorem marked_unless_bodiless {c : Client σ κ} {user : Chain (Factory σ κ)}
    (first : c.converters = withBuiltIns user) {entry : MethodEntry σ} {plan : Plan σ κ}
    (made : c.Made entry plan) (suspend : entry.record.isSuspend = true)
    (value : entry.record.awaitsEnvelope = false) {marker : Payload}
    (marked : plan.responseType.Marked marker) {raw : RawResponse} (succeeds : raw.Succeeds)
    (s : σ) : ∃ outcome, MarkedUnlessBodiless plan entry raw marker s outcome := by
  have purpose : Engine.purposeOf plan false = .value entry.qualified entry.record.nullable := by
    have same := Engine.purposeOf_of_made (h := ⟨c, 0⟩) made suspend
    rw [value] at same
    exact same
  by_cases bodiless : raw.Bodiless
  · have gives : (Engine.purposeOf plan false).result (.ok (.success raw none)) =
        if entry.record.nullable then .ok (.value none)
          else .error (.missingBody entry.qualified) := by
      rw [purpose, Purpose.result, Envelope.awaitedBody_success succeeds]
      cases entry.record.nullable with
      | true => rfl
      | false => rfl
    refine ⟨_, {
      parsed := run_parseResponse_of_bodiless _ s bodiless
      marked := fun _ _ bodied => absurd bodiless bodied
      unmarked := fun run invoked _ result mem => ?_
      resumes := fun run invoked unready present => ⟨absurd bodiless, fun _ => ?_⟩ }⟩
    · exact (Bridge.result_eq_of_invoked run invoked result mem).trans gives
    · exact gives ▸ Bridge.readyWith_of_invoked run invoked unready present
  · have gives : (Engine.purposeOf plan false).result (.ok (.success raw (some marker))) =
        .ok (.value (some marker)) := by
      rw [purpose, Purpose.result, Envelope.awaitedBody_success succeeds]
      rfl
    refine ⟨.ok (.success raw (some marker)), {
      parsed := ?_
      marked := fun run invoked _ result mem => ?_
      unmarked := fun _ _ other => absurd other bodiless
      resumes := fun run invoked unready present =>
        ⟨fun _ => ?_, fun other => absurd other bodiless⟩ }⟩
    · rw [run_parseResponse_of_bodied _ s succeeds bodiless, made.run_converter first marked]
    · exact (Bridge.result_eq_of_invoked run invoked result mem).trans gives
    · exact gives ▸ Bridge.readyWith_of_invoked run invoked unready present

/-- A client whose calls all reply with the status and a body of one byte. -/
def replyingClient (status : UInt16) : Client Unit Unit :=
  { localClient .empty false with
    calls := .scripted 0 fun _ => .reply ⟨status, "", [], ⟨none, [0]⟩⟩ }

/-- A method that awaits the marker for no content. -/
def clearMethod : MethodRecord Unit := emptyRequestMethod "clear" (.suspend (.named "NoContent"))

/-- With status 200 the marker is there, whatever was sent. -/
theorem marked_unless_bodiless_clear : ∃ plan outcome,
    (replyingClient 200).Made ⟨"Api.clear", clearMethod⟩ plan ∧
      MarkedUnlessBodiless plan ⟨"Api.clear", clearMethod⟩ ⟨200, "", [], ⟨none, [0]⟩⟩ .noContent ()
        outcome := by
  have declares : clearMethod.Declares (.named "NoContent") (.suspendForValue false) :=
    .value rfl (Shape.closed_iff.mpr rfl) fun _ _ same => nomatch (Shape.type.inj same).2
  have first : (replyingClient 200).converters = withBuiltIns .empty := rfl
  obtain ⟨plan, made, type, _⟩ : ∃ plan,
      (replyingClient 200).Made ⟨"Api.clear", clearMethod⟩ plan ∧
        plan.responseType = .named "NoContent" ∧ plan.variant = .suspendForValue false :=
    Client.exists_made_of_marked first rfl declares ⟨by decide, by decide, fun _ => rfl⟩
      (.noContent rfl) ()
  have marked : plan.responseType.Marked .noContent := type ▸ .noContent rfl
  have succeeds : RawResponse.Succeeds ⟨200, "", [], ⟨none, [0]⟩⟩ := ⟨by decide, by decide⟩
  obtain ⟨outcome, marks⟩ := marked_unless_bodiless first made rfl rfl marked succeeds ()
  exact ⟨plan, outcome, made, marks⟩

/-- A client all of whose calls reply with status 204. -/
def clearing : ClientHandle Unit Unit := ⟨replyingClient 204, 0⟩

/-- Its engine, with `clearMethod` registered and invoked. -/
def clearingEngine : Engine Unit Unit :=
  let e := ((Engine.register clearing ⟨"Api", [clearMethod]⟩).run Engine.newEngine).2
  ((Engine.invoke Engine.idleHooks clearing ⟨1⟩ []).run e).2

/-- The future of the marker brings a failure for want of a body. -/
theorem no_marker_at_204 : ((Engine.pollFuture Engine.idleHooks 0).run clearingEngine).1 =
    some (.error (.missingBody "Api.clear")) := rfl

end RemoteCall
