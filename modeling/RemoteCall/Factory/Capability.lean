import RemoteCall.Call.Action
import RemoteCall.Metadata

/-!
Converters and adapters, and the questions by which a client asks for them.

A `Query` names what is wanted and for which shape; its `Offer` is the type of the answer. Plug-ins
may keep a state `σ` that all of them share.
-/

namespace RemoteCall

/-- Decodes a response body. -/
def ResponseConverter (σ : Type) : Type := ResponseBody → StateM σ (Except Fault Payload)

/-- Encodes an argument as a request body. -/
def RequestConverter (σ : Type) : Type := Argument → StateM σ (Except Fault RequestBody)

/-- Renders an argument as text. -/
def StringConverter (σ : Type) : Type := Argument → StateM σ (Except Fault String)

/-- Turns a fresh call into what the caller of a method gets. -/
structure CallAdapter (σ κ : Type) where
  /-- The payload that the response converter has to produce. -/
  responseType : Shape
  adapt : CallRef → Action σ κ (Except Fault Payload)

/-- A question to the factories of a client. -/
inductive Query where
  | callAdapter (shape : Shape) (tags : Metadata)
  | responseConverter (shape : Shape) (tags : Metadata)
  | requestConverter (shape : Shape) (parameter method : Metadata)
  | stringConverter (shape : Shape) (tags : Metadata)

/-- The two kinds of factories. -/
inductive Side where
  | adapters | converters
deriving DecidableEq

namespace Query

/-- The shape asked about. -/
def shape : Query → Shape
  | callAdapter s _ | responseConverter s _ | requestConverter s _ _ | stringConverter s _ => s

/-- The factories that answer the question. -/
def side : Query → Side
  | callAdapter .. => .adapters
  | _ => .converters

/-- The sets of tags that go with the question. -/
def tags : Query → List Metadata
  | callAdapter _ m | responseConverter _ m | stringConverter _ m => [m]
  | requestConverter _ p m => [p, m]

/-- The type of the answers. -/
def Offer (σ κ : Type) : Query → Type
  | callAdapter .. => CallAdapter σ κ
  | responseConverter .. => ResponseConverter σ
  | requestConverter .. => RequestConverter σ
  | stringConverter .. => StringConverter σ

end Query

/-- Texts for which no factory offers a converter: the natural text of the argument. -/
def naturalTextConverter (σ : Type) : StringConverter σ := fun a => pure (.ok a.naturalText)

end RemoteCall
