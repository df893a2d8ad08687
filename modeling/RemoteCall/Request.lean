import RemoteCall.Text.Utf8

/-!
Requests: what a call sends.
-/

namespace RemoteCall

/-- The verb of a declared operation. -/
inductive Verb where
  | get | head | post | put | patch | delete | options
  | other (text : String)
deriving DecidableEq, Inhabited

namespace Verb

/-- The verb as it is sent. -/
def text : Verb → String
  | get => "GET"
  | head => "HEAD"
  | post => "POST"
  | put => "PUT"
  | patch => "PATCH"
  | delete => "DELETE"
  | options => "OPTIONS"
  | other text => text

/-- Whether a response to the verb never has a body. A verb of one's own is not `head`, whatever
its text. -/
def forbidsResponseBody : Verb → Bool
  | head => true
  | _ => false

end Verb

/-- Headers in the order in which they are sent; a name may occur twice. -/
abbrev Headers := List (String × String)

/-- The encoded payload of a request. -/
structure RequestBody where
  contentType : Option String
  bytes : Bytes
deriving DecidableEq

/-- A request that is ready to be sent. -/
structure Request where
  verb : Verb
  url : String
  headers : Headers := []
  body : Option RequestBody := none
deriving DecidableEq

end RemoteCall
