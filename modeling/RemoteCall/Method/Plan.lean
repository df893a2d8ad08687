import RemoteCall.Client.Search
import RemoteCall.Method.Record

/-!
Plans: how a declared method is carried out.

`planFor` classifies a record, finds its adapter and its response converter, and checks the payload
in between. It fails with the first thing that is wrong: the declared shape, the adapter, the
payload, the converter. A plan is made once for a method and used for all its calls.
-/

namespace RemoteCall

/-- How the result of a method reaches the caller. -/
inductive Variant where
  /-- The caller gets what the adapter makes of a fresh call. -/
  | direct
  /-- The caller waits for the decoded body. -/
  | suspendForValue (nullable : Bool)
  /-- The caller waits for the envelope. -/
  | suspendForEnvelope
deriving DecidableEq

/-- Whether the caller waits. -/
def Variant.isSuspend : Variant → Bool
  | direct => false
  | _ => true

/-- All that is needed to call a method. -/
structure Plan (σ κ : Type) where
  id : MethodId
  /-- The full name of the method. -/
  method : String
  verb : Verb
  variant : Variant
  responseType : Shape
  responseConverter : ResponseConverter σ
  callAdapter : CallAdapter σ κ
  request : RequestFactory σ
  calls : CallMaker
  baseUrl : String

variable {σ κ : Type}

/-- The shape for which a method needs an adapter. What is awaited is declared without the call
around it, and an envelope is awaited as a call of its payload. -/
def adapterShape : Convention → Shape
  | .direct shape => shape
  | .suspend shape =>
    .call (if shape.is Shape.envelopeName then (shape.param? 0).getD shape else shape)

/-- The tags that go with the search for an adapter. Whoever waits resumes on its own, so a method
that is awaited keeps off the callback executor. -/
def adapterTags (r : MethodRecord σ) : Metadata :=
  if r.isSuspend then r.metadata.insert Metadata.skipCallbackExecutor else r.metadata

/-- What is wrong with the declared shape, if anything is. -/
def conventionFault? : Convention → Option String
  | .direct shape =>
    if shape = .unit then some "Service methods cannot return unit."
    else if shape.hasUnresolved then
      some ("Method return type must not include a type variable or wildcard: " ++ shape.text)
    else none
  | .suspend shape =>
    if shape.hasUnresolved then
      some ("Awaited type must not include a type variable or wildcard: " ++ shape.text)
    else none

/-- What is wrong with the payload of a method, if anything is. -/
def payloadFault? (verb : Verb) (payload : Shape) : Option String :=
  if payload.is Shape.rawResponseName then
    some ("'" ++ Shape.rawResponseName ++ "' is not a valid response body type. Did you mean " ++
      Shape.responseBodyName ++ "?")
  else if payload.is Shape.envelopeName && !payload.isParameterized then
    some "Envelope must include its payload type parameter (e.g., Envelope<String>)"
  else if verb.forbidsResponseBody && !payload.is Shape.noContentName then
    some (verb.text ++ " method must use " ++ Shape.noContentName ++ " as response type.")
  else none

/-- The variant of a method. -/
def variantOf (r : MethodRecord σ) : Variant :=
  match r.convention with
  | .direct _ => .direct
  | .suspend shape =>
    if shape.is Shape.envelopeName && (shape.param? 0).isSome then .suspendForEnvelope
    else .suspendForValue r.nullable

/-- Makes the plan of a method. -/
def planFor (c : Client σ κ) (id : MethodId) (e : MethodEntry σ) :
    Search σ (Except Error (Plan σ κ)) := do
  let r := e.record
  match conventionFault? r.convention with
  | some reason => return .error (.configuration (some e.qualified) reason)
  | none =>
    match ← c.offer (.callAdapter (adapterShape r.convention) (adapterTags r)) with
    | .error error => return .error (error.forMethod e.qualified)
    | .ok adapter => finish r adapter
where
  /-- The part after the adapter is found. -/
  finish (r : MethodRecord σ) (adapter : CallAdapter σ κ) :
      Search σ (Except Error (Plan σ κ)) := do
    match payloadFault? r.verb adapter.responseType with
    | some reason => return .error (.shape e.qualified reason)
    | none =>
      match ← c.offer (.responseConverter adapter.responseType r.metadata) with
      | .error error => return .error (error.forMethod e.qualified)
      | .ok converter => return .ok {
          id
          method := e.qualified
          verb := r.verb
          variant := variantOf r
          responseType := adapter.responseType
          responseConverter := converter
          callAdapter := adapter
          request := r.request
          calls := c.calls
          baseUrl := c.baseUrl }

end RemoteCall
