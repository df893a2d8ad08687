import RemoteCall.Payload
import RemoteCall.Argument

/-!
Responses, undecoded and decoded.

`parseResponse` turns a `RawResponse` into an `Envelope`. The status decides: outside 200 to 299 the
raw body is kept undecoded as the error body; 204 and 205 have no body, whatever bytes were sent;
all other bodies go through the converter. The converter may have effects of its own, so the
function is stated for an arbitrary monad.
-/

namespace RemoteCall

/-- Whether a status is one of success. -/
def isSuccessStatus (status : UInt16) : Bool := 200 ≤ status && status < 300

theorem isSuccessStatus_iff (status : UInt16) :
    isSuccessStatus status = true ↔ 200 ≤ status ∧ status ≤ 299 := by
  rw [isSuccessStatus, Bool.and_eq_true, decide_eq_true_eq, decide_eq_true_eq,
    UInt16.lt_iff_toNat_lt, UInt16.le_iff_toNat_le (b := 299)]
  exact and_congr_right fun _ => Nat.lt_succ_iff

/-- A response as it comes from the network. -/
structure RawResponse where
  status : UInt16
  message : String
  headers : Headers
  body : ResponseBody
deriving DecidableEq

/-- Whether the status is one of success. -/
def RawResponse.isSuccess (r : RawResponse) : Bool := isSuccessStatus r.status

/-- A decoded response: the payload with status and headers. -/
structure Envelope where
  status : UInt16
  message : String
  headers : Headers
  body : Option Payload
  errorBody : Option ResponseBody
deriving DecidableEq

/-- How a call ends. -/
abbrev Outcome := Except Error Envelope

namespace Envelope

/-- A successful response with a decoded body or none. -/
def success (raw : RawResponse) (body : Option Payload) : Envelope :=
  ⟨raw.status, raw.message, raw.headers, body, none⟩

/-- An unsuccessful response; its body stays as it is. -/
def failure (raw : RawResponse) : Envelope :=
  ⟨raw.status, raw.message, raw.headers, none, some raw.body⟩

/-- Whether the status is one of success. -/
def isSuccess (e : Envelope) : Bool := isSuccessStatus e.status

/-- A letter of the Latin alphabet in lower case, every other character as it is. -/
def foldLetter (c : Char) : Char :=
  if 'A' ≤ c && c ≤ 'Z' then Char.ofNat (c.toNat + 32) else c

/-- Whether two header names are equal up to the case of Latin letters. -/
def sameHeader (a b : String) : Bool := a.toList.map foldLetter == b.toList.map foldLetter

/-- The value of the first header with the given name. -/
def header? (e : Envelope) (name : String) : Option String :=
  (e.headers.find? fun h => sameHeader h.1 name).map (·.2)

/-- The body as a payload of the given type; there need not be one. -/
def intoBody (e : Envelope) (t : PayloadType) : Except Error (Option Payload) :=
  match e.body with
  | none => .ok none
  | some p => (p.expect t).map some

end Envelope

/-- The envelope of a raw response, its body decoded by `convert` where it has one. -/
def parseResponse {m : Type → Type} [Monad m] (convert : ResponseBody → m (Except Fault Payload))
    (raw : RawResponse) : m Outcome :=
  if !raw.isSuccess then
    pure (.ok (.failure raw))
  else if raw.status = 204 || raw.status = 205 then
    pure (.ok (.success raw none))
  else do
    match ← convert raw.body with
    | .ok payload => pure (.ok (.success raw (some payload)))
    | .error fault => pure (.error (.conversion fault))

/-- What an awaited body is, given the envelope. A status other than success is an error, and so is
a missing body unless the method is `nullable`. -/
def Envelope.awaitedBody (e : Envelope) (method : String) (nullable : Bool) :
    Except Error (Option Payload) :=
  if !e.isSuccess then
    .error (.status e.status e.message)
  else
    match e.body with
    | some payload => .ok (some payload)
    | none => if nullable then .ok none else .error (.missingBody method)

/-! ### Written forms -/

/-- The written form of an undecoded body. -/
def ResponseBody.written (b : ResponseBody) : String :=
  Layout.record "ResponseBody" [
    ("content_type", Layout.option (b.contentType.map Text.quoted)),
    ("bytes", Bytes.written b.bytes)]

/-- The written form of headers. -/
def Headers.written (headers : Headers) : String :=
  Layout.list (headers.map fun h => Layout.tuple [Text.quoted h.1, Text.quoted h.2])

/-- The written form of a truth value. -/
def writtenBool (b : Bool) : String := if b then "true" else "false"

/-- The written form of an envelope; of the decoded body only its presence is shown. -/
def Envelope.written (e : Envelope) : String :=
  Layout.record "Envelope" [
    ("status", toString e.status.toNat),
    ("message", Text.quoted e.message),
    ("headers", Headers.written e.headers),
    ("has_body", writtenBool e.body.isSome),
    ("error_body", Layout.option (e.errorBody.map ResponseBody.written))]

end RemoteCall
