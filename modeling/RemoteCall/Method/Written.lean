import RemoteCall.Method.Plan

/-!
Written forms of declarations, plans and clients, on one line each.
-/

namespace RemoteCall

mutual

/-- The written form of a shape. -/
def Shape.written : Shape → String
  | .unit => "Unit"
  | .unresolved name => Layout.applied "Variable" [Text.quoted name]
  | .type raw args =>
    Layout.record "Type" [("raw", Text.quoted raw), ("args", Layout.list (Shape.writtenAll args))]

/-- The written forms of several shapes. -/
def Shape.writtenAll : List Shape → List String
  | [] => []
  | s :: ss => s.written :: Shape.writtenAll ss

end

/-- The written form of a verb. -/
def Verb.written : Verb → String
  | .get => "Get"
  | .head => "Head"
  | .post => "Post"
  | .put => "Put"
  | .patch => "Patch"
  | .delete => "Delete"
  | .options => "Options"
  | .other text => Layout.applied "Other" [Text.quoted text]

/-- The written form of a set of tags. -/
def Metadata.written (m : Metadata) : String :=
  Layout.record "Metadata" [("tags", Layout.set (m.tags.map Text.quoted))]

/-- The written form of a method's number. -/
def MethodId.written (id : MethodId) : String :=
  Layout.applied "MethodId" [toString id.number.toNat]

/-- The written form of a convention. -/
def Convention.written : Convention → String
  | .direct shape => Layout.applied "Direct" [shape.written]
  | .suspend shape => Layout.applied "Suspend" [shape.written]

/-- The written form of a variant. -/
def Variant.written : Variant → String
  | .direct => "Direct"
  | .suspendForValue nullable =>
    Layout.record "SuspendForValue" [("nullable", writtenBool nullable)]
  | .suspendForEnvelope => "SuspendForEnvelope"

variable {σ κ : Type}

/-- The written form of a record; what makes the request is not shown. -/
def MethodRecord.written (r : MethodRecord σ) : String :=
  Layout.openRecord "MethodRecord" [
    ("name", Text.quoted r.name),
    ("verb", r.verb.written),
    ("convention", r.convention.written),
    ("metadata", r.metadata.written),
    ("nullable", writtenBool r.nullable)]

/-- The written form of a plan; the plug-ins are not shown. -/
def Plan.written (p : Plan σ κ) : String :=
  Layout.openRecord "MethodDescriptor" [
    ("id", p.id.written),
    ("method", Text.quoted p.method),
    ("verb", p.verb.written),
    ("variant", p.variant.written),
    ("response_type", p.responseType.written)]

/-- The written form of a client with so many methods. -/
def Client.written (c : Client σ κ) (methods : Nat) : String :=
  Layout.record "Client" [
    ("base_url", Text.quoted c.baseUrl),
    ("converters", Layout.list (c.converters.names.map Text.quoted)),
    ("adapters", Layout.list (c.adapters.names.map Text.quoted)),
    ("validate_eagerly", writtenBool c.eager),
    ("methods", toString methods)]

end RemoteCall
