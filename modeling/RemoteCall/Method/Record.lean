import RemoteCall.Factory.Capability

/-!
Declared methods: what a service consists of.

A method is declared by a record: its verb, how the caller gets the result (`Convention`), tags, and
a function that makes the request from the arguments. A service is a list of records under a name;
once registered it maps method names to ids.
-/

namespace RemoteCall

/-- How the caller gets the result. -/
inductive Convention where
  /-- As what an adapter makes of the call. -/
  | direct (shape : Shape)
  /-- By waiting for a value of the shape. -/
  | suspend (shape : Shape)
deriving DecidableEq

/-- Makes a request from the base URL and the arguments. -/
def RequestFactory (σ : Type) : Type := String → Arguments → StateM σ (Except Fault Request)

/-- The declaration of one method. -/
structure MethodRecord (σ : Type) where
  name : String
  verb : Verb
  convention : Convention
  metadata : Metadata
  /-- Whether an awaited body may be missing. -/
  nullable : Bool
  request : RequestFactory σ

namespace MethodRecord

variable {σ : Type}

/-- Whether the caller waits for the result. -/
def isSuspend (r : MethodRecord σ) : Bool :=
  match r.convention with
  | .suspend _ => true
  | .direct _ => false

/-- Whether the caller waits for an envelope with a declared payload. -/
def awaitsEnvelope (r : MethodRecord σ) : Bool :=
  match r.convention with
  | .suspend shape => shape.is Shape.envelopeName && shape.isParameterized
  | .direct _ => false

end MethodRecord

/-- A method under its full name, `Service.method`. -/
structure MethodEntry (σ : Type) where
  qualified : String
  record : MethodRecord σ

/-- The declaration of a service. -/
structure ServiceDeclaration (σ : Type) where
  name : String
  methods : List (MethodRecord σ)

/-- The full name of a method. -/
def qualifiedName (service method : String) : String := service ++ "." ++ method

/-- A registered service. -/
structure Service where
  name : String
  methods : List (String × MethodId)
deriving DecidableEq

namespace Service

/-- The id of a method. -/
def id? (s : Service) (method : String) : Option MethodId :=
  (s.methods.find? fun m => m.1 == method).map (·.2)

/-- The ids in the order of declaration. -/
def ids (s : Service) : List MethodId := s.methods.map (·.2)

end Service

end RemoteCall
