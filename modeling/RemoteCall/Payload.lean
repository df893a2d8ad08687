import RemoteCall.Error
import RemoteCall.Request

/-!
Payloads: the values that pass between converters, adapters and callers.

A `CallRef` stands for one call: either a call that was made by a call factory, or a wrapper that
moves the callbacks of another call to an executor. A `Payload` is a decoded body or whatever an
adapter makes of a call; a caller asks for one type and gets an error for any other
(`Payload.expect`).
-/

namespace RemoteCall

/-- Where callbacks and other jobs are run. -/
inductive Executor where
  /-- At once, by whoever hands the job over. -/
  | inline
  /-- Nowhere: the job is dropped. -/
  | discarding
  /-- In a queue that is run on demand. -/
  | manual
  /-- One after the other, in a task of their own. -/
  | serial
  /-- Each in a task of its own. -/
  | concurrent
  /-- As the user's own executor with this number sees fit. -/
  | custom (number : Nat)
deriving DecidableEq

/-- A call. -/
inductive CallRef where
  /-- The call that was made as the `index`-th. -/
  | made (index : Nat)
  /-- The call `delegate`, with its callbacks run by `executor`. -/
  | dispatching (executor : Executor) (delegate : CallRef)
deriving DecidableEq, Inhabited

/-- The made call inside all wrappers. -/
def CallRef.innermost : CallRef → Nat
  | made index => index
  | dispatching _ delegate => delegate.innermost

/-- The undecoded body of a response. -/
structure ResponseBody where
  contentType : Option String
  bytes : Bytes
deriving DecidableEq

/-- A decoded body, or what an adapter makes of a call. -/
inductive Payload where
  | text (s : String)
  | number (n : UInt64)
  | body (b : ResponseBody)
  | noContent
  | unit
  | call (c : CallRef)
deriving DecidableEq

/-- The types of payloads. -/
inductive PayloadKind where
  | text | number | body | noContent | unit | call
deriving DecidableEq

/-- A type of payloads under the name that messages give it. -/
structure PayloadType where
  kind : PayloadKind
  name : String

namespace Payload

/-- The type of a payload. -/
def kind : Payload → PayloadKind
  | text _ => .text
  | number _ => .number
  | body _ => .body
  | noContent => .noContent
  | unit => .unit
  | call _ => .call

/-- The payload, if it is of the type asked for. -/
def expect (t : PayloadType) (p : Payload) : Except Error Payload :=
  if p.kind = t.kind then .ok p else .error (.unexpectedType t.name)

/-- The call that a payload is. -/
def call? : Payload → Option CallRef
  | call c => some c
  | _ => none

end Payload

end RemoteCall
