import RemoteCall.Proofs.DefaultAdapter

/-!
Which methods can be built, and what their plans say.

For a client without adapter factories of the user, a declaration alone decides about the shape of a
method: `MethodRecord.Declares` reads the payload and the variant off it, and `Verb.Admits` says
which payloads a response to the verb can have. A build succeeds exactly if the record declares such
a payload and the converters have a first match for it; otherwise `Client.Rejects` says with which
error it fails and which state of the plug-ins it leaves (`classifies_as_declared`).
-/

namespace RemoteCall

variable {σ κ : Type}

/-! ### Shapes in which nothing is left open -/

namespace Shape

/-- A shape occurs in another one, at any depth. -/
inductive Within (part : Shape) : Shape → Prop where
  | here : Within part part
  | arg {raw : String} {args : List Shape} {arg : Shape} (mem : arg ∈ args)
      (within : Within part arg) : Within part (.type raw args)

/-- No variable and no wildcard occurs in the shape. -/
def Closed (s : Shape) : Prop := ∀ name, ¬ (unresolved name).Within s

mutual

theorem hasUnresolved_iff : ∀ {s : Shape},
    s.hasUnresolved = true ↔ ∃ name, (unresolved name).Within s
  | unit => by
      constructor
      · intro h
        cases h
      · rintro ⟨name, ⟨⟩⟩
  | unresolved name => by
      constructor
      · intro _
        exact ⟨name, .here⟩
      · intro _
        rfl
  | type raw args => by
      rw [hasUnresolved, anyUnresolved_iff]
      constructor
      · rintro ⟨arg, mem, name, within⟩
        exact ⟨name, .arg mem within⟩
      · rintro ⟨name, _ | ⟨mem, within⟩⟩
        exact ⟨_, mem, name, within⟩

theorem anyUnresolved_iff : ∀ {args : List Shape},
    anyUnresolved args = true ↔ ∃ arg ∈ args, ∃ name, (unresolved name).Within arg
  | [] => by simp [anyUnresolved]
  | arg :: rest => by
      rw [anyUnresolved, Bool.or_eq_true, hasUnresolved_iff, anyUnresolved_iff]
      simp

end

theorem closed_iff {s : Shape} : s.Closed ↔ s.hasUnresolved = false := by
  rw [← Bool.not_eq_true, hasUnresolved_iff]
  simp [Closed]

/-- A raw name belongs to a concrete type. -/
theorem is_iff {s : Shape} {raw : String} : s.is raw = true ↔ s.raw? = some raw := by
  simp [is]

theorem eq_type_of_is {s : Shape} {raw : String} (h : s.is raw = true) :
    ∃ args, s = .type raw args := by
  cases s with
  | unit => cases h
  | unresolved name => cases h
  | type name args =>
      rw [is_type, beq_iff_eq] at h
      exact ⟨args, by rw [h]⟩

end Shape

/-! ### What is declared -/

/-- The record declares that responses have the payload, and that the caller gets it in the way of
the variant. -/
inductive MethodRecord.Declares (r : MethodRecord σ) : Shape → Variant → Prop where
  | direct {payload : Shape} {rest : List Shape}
      (convention : r.convention = .direct (.type Shape.callName (payload :: rest)))
      (closed : (Shape.type Shape.callName (payload :: rest)).Closed) : Declares r payload .direct
  | envelope {payload : Shape} {rest : List Shape}
      (convention : r.convention = .suspend (.type Shape.envelopeName (payload :: rest)))
      (closed : (Shape.type Shape.envelopeName (payload :: rest)).Closed) :
      Declares r payload .suspendForEnvelope
  | value {awaited : Shape} (convention : r.convention = .suspend awaited)
      (closed : awaited.Closed)
      (other : ∀ payload rest, awaited ≠ .type Shape.envelopeName (payload :: rest)) :
      Declares r awaited (.suspendForValue r.nullable)

/-- A response to the verb can have the payload. -/
structure Verb.Admits (verb : Verb) (payload : Shape) : Prop where
  decoded : payload.raw? ≠ some Shape.rawResponseName
  enveloped : payload ≠ .type Shape.envelopeName []
  bodiless : verb = .head → payload.raw? = some Shape.noContentName

namespace MethodRecord.Declares

variable {r : MethodRecord σ} {payload : Shape} {variant : Variant}

theorem conventionFault?_eq (declares : r.Declares payload variant) :
    conventionFault? r.convention = none := by
  cases declares with
  | direct convention closed =>
      rw [convention, conventionFault?, Shape.closed_iff.mp closed]
      rfl
  | envelope convention closed =>
      rw [convention, conventionFault?, Shape.closed_iff.mp closed]
      rfl
  | value convention closed other =>
      rw [convention, conventionFault?, Shape.closed_iff.mp closed]
      rfl

/-- The adapter is asked for a call of the payload. -/
theorem adapterShape_eq (declares : r.Declares payload variant) :
    ∃ rest, adapterShape r.convention = .type Shape.callName (payload :: rest) := by
  cases declares with
  | @direct rest convention closed =>
      rw [convention, adapterShape]
      exact ⟨rest, rfl⟩
  | envelope convention closed =>
      rw [convention]
      exact ⟨[], rfl⟩
  | value convention closed other =>
      refine ⟨[], ?_⟩
      rw [convention, adapterShape, Shape.call]
      by_cases enveloped : payload.is Shape.envelopeName = true
      · obtain ⟨args, rfl⟩ := Shape.eq_type_of_is enveloped
        cases args with
        | nil => rfl
        | cons first rest => exact absurd rfl (other first rest)
      · rw [if_neg enveloped]

theorem variantOf_eq (declares : r.Declares payload variant) : variantOf r = variant := by
  cases declares with
  | direct convention closed => rw [variantOf, convention]
  | envelope convention closed =>
      rw [variantOf, convention]
      simp
  | value convention closed other =>
      rw [variantOf, convention]
      by_cases enveloped : payload.is Shape.envelopeName = true
      · obtain ⟨args, rfl⟩ := Shape.eq_type_of_is enveloped
        cases args with
        | nil => rfl
        | cons first rest => exact absurd rfl (other first rest)
      · simp [enveloped]

end MethodRecord.Declares

/-- An envelope that is not bare says what it is an envelope of. -/
theorem Shape.isParameterized_of_ne {payload : Shape} (ne : payload ≠ .type envelopeName [])
    (enveloped : payload.is envelopeName = true) : payload.isParameterized = true := by
  obtain ⟨args, rfl⟩ := eq_type_of_is enveloped
  cases args with
  | nil => exact absurd rfl ne
  | cons first rest => rfl

theorem payloadFault?_of_ne {verb : Verb} {payload : Shape}
    (decoded : payload.raw? ≠ some Shape.rawResponseName)
    (enveloped : payload ≠ .type Shape.envelopeName []) :
    payloadFault? verb payload =
      if verb.forbidsResponseBody && !payload.is Shape.noContentName then
        some (verb.text ++ " method must use " ++ Shape.noContentName ++ " as response type.")
      else none := by
  have said := Shape.isParameterized_of_ne enveloped
  rw [Ne, ← Shape.is_iff] at decoded
  rw [payloadFault?, if_neg decoded, if_neg (by simpa using said)]

theorem payloadFault?_of_admits {verb : Verb} {payload : Shape} (admits : verb.Admits payload) :
    payloadFault? verb payload = none := by
  rw [payloadFault?_of_ne admits.decoded admits.enveloped]
  apply if_neg
  have bodiless := admits.bodiless
  rw [← Shape.is_iff] at bodiless
  cases verb with
  | head => simp [bodiless]
  | _ => simp [Verb.forbidsResponseBody]

/-! ### What is rejected -/

namespace Client

/-- From the plug-in state `s`, the build of the method fails with the error and leaves the state
`t`. Nobody is asked before the payload has been found in order. -/
inductive Rejects (c : Client σ κ) (e : MethodEntry σ) (s : σ) : Error → σ → Prop where
  | unit (convention : e.record.convention = .direct .unit) :
      Rejects c e s
        (.configuration (some e.qualified) "Service methods cannot return unit.") s
  | openResult {shape : Shape} {name : String} (convention : e.record.convention = .direct shape)
      (within : (Shape.unresolved name).Within shape) :
      Rejects c e s (.configuration (some e.qualified)
        ("Method return type must not include a type variable or wildcard: " ++ shape.text)) s
  | openAwaited {shape : Shape} {name : String} (convention : e.record.convention = .suspend shape)
      (within : (Shape.unresolved name).Within shape) :
      Rejects c e s (.configuration (some e.qualified)
        ("Awaited type must not include a type variable or wildcard: " ++ shape.text)) s
  | notCall {shape : Shape} (convention : e.record.convention = .direct shape)
      (returns : shape ≠ .unit) (closed : shape.Closed)
      (other : shape.raw? ≠ some Shape.callName) :
      Rejects c e s (.resolution (some e.qualified)
        ⟨.callAdapter, shape, [], ["DefaultCallAdapterFactory"]⟩) s
  | bareCall (convention : e.record.convention = .direct (.type Shape.callName [])) :
      Rejects c e s (.configuration (some e.qualified)
        "Call return type must be parameterized as Call<Foo>") s
  | rawResponse {payload : Shape} {variant : Variant}
      (declares : e.record.Declares payload variant)
      (raw : payload.raw? = some Shape.rawResponseName) :
      Rejects c e s (.shape e.qualified
        "'RawResponse' is not a valid response body type. Did you mean ResponseBody?") s
  | bareEnvelope {variant : Variant}
      (declares : e.record.Declares (.type Shape.envelopeName []) variant) :
      Rejects c e s (.shape e.qualified
        "Envelope must include its payload type parameter (e.g., Envelope<String>)") s
  | headWithBody {payload : Shape} {variant : Variant}
      (declares : e.record.Declares payload variant) (head : e.record.verb = .head)
      (decoded : payload.raw? ≠ some Shape.rawResponseName)
      (enveloped : payload ≠ .type Shape.envelopeName [])
      (body : payload.raw? ≠ some Shape.noContentName) :
      Rejects c e s (.shape e.qualified "HEAD method must use NoContent as response type.") s
  | converter {payload : Shape} {variant : Variant} {error : Error} {t : σ}
      (declares : e.record.Declares payload variant) (admits : e.record.verb.Admits payload)
      (noMatch : c.NoMatch c.depth (.responseConverter payload e.record.metadata) 0 s error t) :
      Rejects c e s (error.forMethod e.qualified) t
  | endless {payload : Shape} {variant : Variant} {t : σ}
      (declares : e.record.Declares payload variant) (admits : e.record.verb.Admits payload)
      (unended : ending (c.offer (.responseConverter payload e.record.metadata)) s = (none, t)) :
      Rejects c e s endlessSearch t

variable {c : Client σ κ} {e : MethodEntry σ} {executor : Option Executor} {payload : Shape}
  {variant : Variant}

/-- What is declared is adapted by the default adapter, and the build goes on with the payload. -/
theorem ending_planFor_of_declares (plain : c.adapters = withDefault .empty executor)
    (declares : e.record.Declares payload variant) (id : MethodId) (s : σ) :
    ending (planFor c id e) s =
      ending (planFor.finish c id e e.record (callsOf executor e.record payload)) s := by
  obtain ⟨rest, asked⟩ := declares.adapterShape_eq
  have adapted : plainAdapter executor (adapterShape e.record.convention) (adapterTags e.record) =
      .ok (callsOf (κ := κ) executor e.record payload) := by
    rw [asked, plainAdapter, callsOf, contains_adapterTags]
    cases e.record.hops with
    | true => rfl
    | false => rfl
  rw [ending_planFor declares.conventionFault?_eq, ending_offer_of_plain plain, adapted]

/-- For a declared payload that is in order, the build ends as the search for a converter does. -/
theorem ending_planFor_of_admits (plain : c.adapters = withDefault .empty executor)
    (declares : e.record.Declares payload variant) (admits : e.record.verb.Admits payload)
    (id : MethodId) {s t : σ} {found : Option (Except Error (ResponseConverter σ))}
    (searched : ending (c.offer (.responseConverter payload e.record.metadata)) s = (found, t)) :
    ending (planFor c id e) s =
      (found.map fun
        | .ok converter => .ok (planOf c id e (callsOf executor e.record payload) converter)
        | .error error => .error (error.forMethod e.qualified), t) := by
  have usable : payloadFault? e.record.verb
      (callsOf executor e.record payload : CallAdapter σ κ).responseType = none :=
    payloadFault?_of_admits admits
  have searched' : ending (c.offer (.responseConverter
      (callsOf executor e.record payload : CallAdapter σ κ).responseType e.record.metadata)) s =
        (found, t) := searched
  rw [ending_planFor_of_declares plain declares, ending_finish usable, searched']
  rcases found with _ | _ | converter
  · rfl
  · rfl
  · rfl

/-- A payload that is not in order fails the build, and no converter is asked for. -/
theorem ending_planFor_of_payloadFault (plain : c.adapters = withDefault .empty executor)
    (declares : e.record.Declares payload variant) {reason : String}
    (fault : payloadFault? e.record.verb payload = some reason) (id : MethodId) (s : σ) :
    ending (planFor c id e) s = (some (.error (.shape e.qualified reason)), s) := by
  have unusable : payloadFault? e.record.verb
      (callsOf executor e.record payload : CallAdapter σ κ).responseType = some reason := fault
  rw [ending_planFor_of_declares plain declares, ending_finish_of_fault unusable]

/-- A direct method fails with its search for an adapter. -/
theorem ending_planFor_of_direct (plain : c.adapters = withDefault .empty executor) {shape : Shape}
    (convention : e.record.convention = .direct shape) (returns : shape ≠ .unit)
    (closed : shape.Closed) {error : Error}
    (fails : (plainAdapter executor shape (adapterTags e.record) :
      Except Error (CallAdapter σ κ)) = .error error) (id : MethodId) (s : σ) :
    ending (planFor c id e) s = (some (.error (error.forMethod e.qualified)), s) := by
  have wellFormed : conventionFault? e.record.convention = none := by
    rw [convention, conventionFault?, if_neg returns, Shape.closed_iff.mp closed]
    rfl
  have asked : adapterShape e.record.convention = shape := by rw [convention, adapterShape]
  rw [ending_planFor wellFormed, ending_offer_of_plain plain, asked, fails]

/-- A build that is rejected fails with the error. -/
theorem Rejects.run_build (plain : c.adapters = withDefault .empty executor) {s t : σ}
    {error : Error} (rejects : c.Rejects e s error t) (id : MethodId) :
    (settleSearch (planFor c id e)).run s = (.error error, t) := by
  rw [run_settleSearch]
  cases rejects with
  | unit convention =>
      have fault : conventionFault? e.record.convention =
          some "Service methods cannot return unit." := by
        rw [convention]
        rfl
      rw [ending_planFor_of_fault fault]
      rfl
  | @openResult shape name convention within =>
      have unresolved : shape.hasUnresolved = true := Shape.hasUnresolved_iff.mpr ⟨name, within⟩
      have returns : shape ≠ .unit := by
        rintro rfl
        cases within
      rw [ending_planFor_of_fault (by
        rw [convention, conventionFault?, if_neg returns, if_pos unresolved])]
      rfl
  | @openAwaited shape name convention within =>
      have unresolved : shape.hasUnresolved = true := Shape.hasUnresolved_iff.mpr ⟨name, within⟩
      rw [ending_planFor_of_fault (by rw [convention, conventionFault?, if_pos unresolved])]
      rfl
  | @notCall shape convention returns closed other =>
      rw [Ne, ← Shape.is_iff] at other
      rw [ending_planFor_of_direct plain convention returns closed (by
        rw [plainAdapter, if_neg other])]
      rfl
  | bareCall convention =>
      have closed : (Shape.type Shape.callName []).Closed := Shape.closed_iff.mpr rfl
      rw [ending_planFor_of_direct plain convention Shape.noConfusion closed rfl]
      rfl
  | rawResponse declares raw =>
      rw [ending_planFor_of_payloadFault plain declares (by
        rw [payloadFault?, if_pos (Shape.is_iff.mpr raw)])]
      rfl
  | bareEnvelope declares =>
      rw [ending_planFor_of_payloadFault plain declares rfl]
      rfl
  | headWithBody declares head decoded enveloped body =>
      rw [Ne, ← Shape.is_iff] at body
      rw [ending_planFor_of_payloadFault plain declares (by
        rw [payloadFault?_of_ne decoded enveloped, head,
          if_pos (by simp [body, Verb.forbidsResponseBody])])]
      rfl
  | converter declares admits noMatch =>
      rw [ending_planFor_of_admits plain declares admits id (noMatch_iff.mp noMatch)]
      rfl
  | endless declares admits unended =>
      rw [ending_planFor_of_admits plain declares admits id unended]
      rfl

/-- Every record declares a payload, or is rejected as it stands. -/
theorem declares_or_rejects (c : Client σ κ) (e : MethodEntry σ) (s : σ) :
    (∃ payload variant, e.record.Declares payload variant) ∨ ∃ error, c.Rejects e s error s := by
  cases convention : e.record.convention with
  | direct shape =>
      by_cases returns : shape = .unit
      · rw [returns] at convention
        exact Or.inr ⟨_, .unit convention⟩
      by_cases closed : shape.Closed
      · by_cases called : shape.is Shape.callName = true
        · obtain ⟨args, rfl⟩ := Shape.eq_type_of_is called
          cases args with
          | nil => exact Or.inr ⟨_, .bareCall convention⟩
          | cons payload rest => exact Or.inl ⟨payload, _, .direct convention closed⟩
        · rw [Shape.is_iff] at called
          exact Or.inr ⟨_, .notCall convention returns closed called⟩
      · obtain ⟨name, within⟩ := not_forall_not.mp closed
        exact Or.inr ⟨_, .openResult convention within⟩
  | suspend shape =>
      by_cases closed : shape.Closed
      · by_cases enveloped : ∃ payload rest, shape = .type Shape.envelopeName (payload :: rest)
        · obtain ⟨payload, rest, rfl⟩ := enveloped
          exact Or.inl ⟨payload, _, .envelope convention closed⟩
        · refine Or.inl ⟨shape, _, .value convention closed ?_⟩
          intro payload rest same
          exact enveloped ⟨payload, rest, same⟩
      · obtain ⟨name, within⟩ := not_forall_not.mp closed
        exact Or.inr ⟨_, .openAwaited convention within⟩

/-- A declared payload is one that a response can have, or the method is rejected for it. -/
theorem admits_or_rejects (c : Client σ κ) (declares : e.record.Declares payload variant) (s : σ) :
    e.record.verb.Admits payload ∨ ∃ error, c.Rejects e s error s := by
  by_cases raw : payload.raw? = some Shape.rawResponseName
  · exact Or.inr ⟨_, .rawResponse declares raw⟩
  by_cases bare : payload = .type Shape.envelopeName []
  · rw [bare] at declares
    exact Or.inr ⟨_, .bareEnvelope declares⟩
  by_cases bodiless : e.record.verb = .head → payload.raw? = some Shape.noContentName
  · exact Or.inl ⟨raw, bare, bodiless⟩
  · obtain ⟨head, body⟩ := Classical.not_imp.mp bodiless
    exact Or.inr ⟨_, .headWithBody declares head raw bare body⟩

/-- Every build comes to a first match for a declared payload, or is rejected. -/
theorem matches_or_rejects (c : Client σ κ) (e : MethodEntry σ) (s : σ) :
    (∃ payload variant converter t, e.record.Declares payload variant ∧
      e.record.verb.Admits payload ∧
        c.FirstMatch c.depth (.responseConverter payload e.record.metadata) 0 s converter t) ∨
      ∃ error t, c.Rejects e s error t := by
  rcases c.declares_or_rejects e s with ⟨payload, variant, declares⟩ | ⟨error, rejects⟩
  · rcases c.admits_or_rejects declares s with admits | ⟨error, rejects⟩
    · rcases searched : ending (c.offer (.responseConverter payload e.record.metadata)) s with
        ⟨_ | error | converter, t⟩
      · exact Or.inr ⟨_, t, .endless declares admits searched⟩
      · exact Or.inr ⟨_, t, .converter declares admits (noMatch_iff.mpr searched)⟩
      · exact Or.inl ⟨payload, variant, converter, t, declares, admits,
          firstMatch_of_ending rfl searched⟩
    · exact Or.inr ⟨error, s, rejects⟩
  · exact Or.inr ⟨error, s, rejects⟩

/-! ### The rule -/

/-- The plan that the declaration calls for. -/
def declaredPlan (c : Client σ κ) (id : MethodId) (e : MethodEntry σ) (payload : Shape)
    (variant : Variant) (converter : ResponseConverter σ) : Plan σ κ where
  id
  method := e.qualified
  verb := e.record.verb
  variant
  responseType := payload
  responseConverter := converter
  callAdapter := callsOf c.executor e.record payload
  request := e.record.request
  calls := c.calls
  baseUrl := c.baseUrl

/-- Builds succeed and fail as declared. -/
structure Classifies (c : Client σ κ) : Prop where
  succeeds : ∀ {id e s t plan}, (settleSearch (planFor c id e)).run s = (.ok plan, t) ↔
    ∃ payload variant converter, e.record.Declares payload variant ∧
      e.record.verb.Admits payload ∧
      c.FirstMatch c.depth (.responseConverter payload e.record.metadata) 0 s converter t ∧
      plan = c.declaredPlan id e payload variant converter
  fails : ∀ {id e s t error}, (settleSearch (planFor c id e)).run s = (.error error, t) ↔
    c.Rejects e s error t

/-- A first match for a declared payload makes the plan. -/
theorem run_build_of_match (plain : c.adapters = withDefault .empty c.executor)
    (declares : e.record.Declares payload variant) (admits : e.record.verb.Admits payload)
    {converter : ResponseConverter σ} {s t : σ}
    (first : c.FirstMatch c.depth (.responseConverter payload e.record.metadata) 0 s converter t)
    (id : MethodId) :
    (settleSearch (planFor c id e)).run s =
      (.ok (c.declaredPlan id e payload variant converter), t) := by
  have made : planOf c id e (callsOf c.executor e.record payload) converter =
      c.declaredPlan id e payload variant converter := by
    rw [planOf, declaredPlan, declares.variantOf_eq]
    rfl
  rw [run_settleSearch, ending_planFor_of_admits plain declares admits id first.ending_search,
    ← made]
  rfl

theorem classifies_as_declared {settings : ClientSettings σ κ} {c : Client σ κ}
    (built : settings.build = .ok c) (plain : settings.adapters = .empty) : c.Classifies := by
  have makes := ClientSettings.build_eq_ok_iff.mp built
  have alone : c.adapters = withDefault .empty c.executor := by
    rw [makes.complete.adapters, ← makes.adapters, plain]
  constructor
  · intro id e s t plan
    constructor
    · intro ran
      rcases c.matches_or_rejects e s with
        ⟨payload, variant, converter, u, declares, admits, first⟩ | ⟨error, u, rejects⟩
      · rw [run_build_of_match alone declares admits first id] at ran
        cases ran
        exact ⟨payload, variant, converter, declares, admits, first, rfl⟩
      · rw [rejects.run_build alone id] at ran
        cases ran
    · rintro ⟨payload, variant, converter, declares, admits, first, rfl⟩
      exact run_build_of_match alone declares admits first id
  · intro id e s t error
    constructor
    · intro ran
      rcases c.matches_or_rejects e s with
        ⟨payload, variant, converter, u, declares, admits, first⟩ | ⟨error, u, rejects⟩
      · rw [run_build_of_match alone declares admits first id] at ran
        cases ran
      · rw [rejects.run_build alone id] at ran
        cases ran
        exact rejects
    · intro rejects
      exact rejects.run_build alone id

/-- Settings with a converter for texts. -/
def textSettings : ClientSettings Unit Unit where
  baseUrl := some "http://localhost/"
  calls := some .lossy
  converters := Chain.empty.push "Text" (textConverters 1 (.named "Text"))

/-- A method whose response has no body, although the marker for that has a parameter. -/
def headMethod : MethodEntry Unit :=
  ⟨"Api.head", { emptyRequestMethod "head" (.direct (.call (.type Shape.noContentName [.unit])))
    with verb := .head }⟩

/-- The rule applies to a client with a converter of the user. A method is built for it whose
payload has no declared form but its raw name. -/
theorem classifies_as_declared_head : ∃ c, (textSettings.build = .ok c ∧ c.Classifies) ∧
    ∃ plan, (settleSearch (planFor c ⟨1⟩ headMethod)).run () = (.ok plan, ()) ∧
      plan.responseType = .type Shape.noContentName [.unit] ∧ plan.variant = .direct := by
  have built : ∃ c, textSettings.build = .ok c := ⟨_, rfl⟩
  obtain ⟨c, made⟩ := built
  refine ⟨c, ⟨made, classifies_as_declared made rfl⟩, ?_⟩
  cases made
  exact ⟨_, rfl, rfl, rfl⟩

end Client

end RemoteCall
