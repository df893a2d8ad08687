import RemoteCall.Shape

/-!
Errors: every way in which a declaration, a lookup or a call can fail.

An `Error` is a cause of the library's own; a `Fault` is what a plug-in reports, which may be a
plain text, an error of the library that passes through the plug-in, or either of them under further
explanations. The wording is in `Error.message` and `Fault.text`; the errors behind an error are in
`Error.sources`. `Error.ofFactory` recovers a library error from a factory's fault, and
`Error.forMethod` names the method that an error is about.
-/

namespace RemoteCall

/-- The number of a registered method. -/
structure MethodId where
  number : UInt64
deriving DecidableEq, Inhabited

/-- The text of a method's number. -/
def MethodId.text (id : MethodId) : String := "method-" ++ toString id.number.toNat

/-- Failures of the network. -/
inductive TransportError where
  | connectionLost (message : String)
  | timeout
  | payloadTooLarge
  /-- The call was canceled before its outcome was delivered. -/
  | canceled
  | io (message : String)
deriving DecidableEq

/-- The wording of a network failure. -/
def TransportError.text : TransportError → String
  | connectionLost message => "Connection lost: " ++ message
  | timeout => "Request timed out"
  | payloadTooLarge => "Payload too large for transport"
  | canceled => "Canceled"
  | io message => "I/O error: " ++ message

/-- What a chain of factories is searched for. -/
inductive Capability where
  | callAdapter | requestConverter | responseConverter
deriving DecidableEq

/-- A capability in words. -/
def Capability.text : Capability → String
  | callAdapter => "call adapter"
  | requestConverter => "request body converter"
  | responseConverter => "response body converter"

/-- No factory of a chain has an offer. The names before the start of the search are `skipped`, the
names of the factories asked are `tried`. -/
structure ResolutionFailure where
  capability : Capability
  shape : Shape
  skipped : List String
  tried : List String
deriving DecidableEq

/-- Names, one a line, under the level of their heading. -/
def bulleted (names : List String) : String :=
  String.join (names.map ("\n   * " ++ ·))

/-- The wording of a failed search. The skipped names are mentioned only if there are any. -/
def ResolutionFailure.text (r : ResolutionFailure) : String :=
  "Could not locate " ++ r.capability.text ++ " for " ++ r.shape.text ++ "." ++
    (if r.skipped.isEmpty then "" else "\n  Skipped:" ++ bulleted r.skipped) ++
    "\n  Tried:" ++ bulleted r.tried

mutual

/-- A cause of failure. -/
inductive Error where
  /-- The declaration itself is malformed. -/
  | configuration (method : Option String) (reason : String)
  /-- No factory has an offer. -/
  | resolution (method : Option String) (failure : ResolutionFailure)
  /-- The declaration is well formed but names a payload that can not be used. -/
  | shape (method reason : String)
  /-- A factory failed while it was asked. -/
  | factory (method : Option String) (factory : String) (source : Fault)
  /-- A call adapter failed to adapt a call. -/
  | adapt (method : String) (source : Fault)
  /-- No request could be made from the arguments. -/
  | request (method : String) (source : Fault)
  /-- A payload could not be encoded or decoded. -/
  | conversion (source : Fault)
  | transport (error : TransportError)
  /-- A body was awaited, but the status is not one of success. -/
  | status (code : UInt16) (message : String)
  /-- A body was awaited, there is none, and the method does not allow for that. -/
  | missingBody (method : String)
  /-- A value is not of the type asked for. -/
  | unexpectedType (expected : String)
  | unknownMethod (id : MethodId)
  | alreadyExecuted
  /-- A client can not be made from the given settings. -/
  | setup (message : String)

/-- What a plug-in reports. -/
inductive Fault where
  | plain (text : String)
  | carried (error : Error)
  | context (text : String) (inner : Fault)

end

instance : Inhabited Error := ⟨.alreadyExecuted⟩

instance : Inhabited Fault := ⟨.plain ""⟩

/-! ### Wording -/

/-- The line that names the method of an error. -/
def methodLine (method : String) : String := "\n    for method " ++ method

/-- The same line, where there is a method to name. -/
def methodLine? : Option String → String
  | none => ""
  | some method => methodLine method

mutual

/-- The wording of an error. -/
def Error.message : Error → String
  | .configuration method reason => "Configuration error: " ++ reason ++ methodLine? method
  | .resolution method failure => failure.text ++ methodLine? method
  | .shape method reason => reason ++ methodLine method
  | .factory method factory source =>
    "Factory " ++ factory ++ " failed: " ++ source.text ++ methodLine? method
  | .adapt method source => "Unable to adapt call: " ++ source.text ++ methodLine method
  | .request method source => "Unable to build request: " ++ source.text ++ methodLine method
  | .conversion source => "Conversion error: " ++ source.text
  | .transport error => "Transport error: " ++ error.text
  | .status code message => "HTTP " ++ toString code.toNat ++ " " ++ message
  | .missingBody method =>
    "Response from " ++ method ++ " was empty but its body type was not declared nullable"
  | .unexpectedType expected => "Value is not a " ++ expected
  | .unknownMethod id => "Method not found: " ++ id.text
  | .alreadyExecuted => "Already executed"
  | .setup message => "Setup error: " ++ message

/-- The outermost text of a fault. -/
def Fault.text : Fault → String
  | .plain text => text
  | .carried error => error.message
  | .context text _ => text

end

mutual

/-- The texts of the errors behind an error, the nearest first. -/
def Error.sources : Error → List String
  | .resolution _ failure => [failure.text]
  | .factory _ _ source => source.texts
  | .adapt _ source => source.texts
  | .request _ source => source.texts
  | .conversion source => source.texts
  | .transport error => [error.text]
  | _ => []

/-- The texts of a fault and of everything behind it. -/
def Fault.texts : Fault → List String
  | .plain text => [text]
  | .carried error => error.message :: error.sources
  | .context text inner => text :: inner.texts

end

/-! ### Where an error belongs -/

/-- The library error that a fault carries, under whatever explanations. -/
def Fault.error? : Fault → Option Error
  | .plain _ => none
  | .carried error => some error
  | .context _ inner => inner.error?

namespace Error

/-- The error for a fault of the factory `name`: a carried error is passed on as it is. -/
def ofFactory (name : String) (fault : Fault) : Error :=
  fault.error?.getD (.factory none name fault)

/-- Names the method of an error that names none yet. -/
def forMethod (method : String) : Error → Error
  | .configuration none reason => .configuration (some method) reason
  | .resolution none failure => .resolution (some method) failure
  | .factory none name source => .factory (some method) name source
  | error => error

/-- The outcome of a call that was canceled. -/
def canceled : Error := .transport .canceled

/-- Whether the failure is the cancellation of a call. -/
def isCanceled : Error → Bool
  | .transport .canceled => true
  | _ => false

end Error

end RemoteCall
