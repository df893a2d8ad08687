import RemoteCall.Request
import RemoteCall.Text.Quoted
import RemoteCall.Text.Layout
import RemoteCall.Text.Shortest

/-!
Arguments of an invocation.

An argument keeps its type, so it is found again only as that type (`int64?`, `text?`, ...).
`Argument.written` is its form as a value; `Argument.naturalText` is the text that stands for it in
a path, where texts and characters are themselves and all else is as written.
-/

namespace RemoteCall

/-- A typed argument. -/
inductive Argument where
  /-- A text that the argument owns. -/
  | text (s : String)
  /-- A text fixed in the caller's program; a different type from `text`. -/
  | fixedText (s : String)
  | char (c : Char)
  | bool (b : Bool)
  | signed (width : Nat) (value : BitVec width)
  | unsigned (width : Nat) (value : BitVec width)
  | float32 (bits : UInt32)
  | float64 (bits : UInt64)
  | texts (items : List String)
  | ints (items : List Int64)
  | optionalText (item : Option String)
  | optionalInt (item : Option Int64)
  | body (body : RequestBody)
  | noContent
  | unit

/-- A body's bytes as a list of numbers. -/
def Bytes.written (bytes : Bytes) : String :=
  Layout.list (bytes.map fun b => toString b.toNat)

/-- The written form of a request body. -/
def RequestBody.written (b : RequestBody) : String :=
  Layout.record "RequestBody" [
    ("content_type", Layout.option (b.contentType.map Text.quoted)),
    ("bytes", Bytes.written b.bytes)]

namespace Argument

/-- The written form of an argument. -/
def written : Argument → String
  | text s => Text.quoted s
  | fixedText s => Text.quoted s
  | char c => Text.quotedChar c
  | bool b => if b then "true" else "false"
  | signed _ value => toString value.toInt
  | unsigned _ value => toString value.toNat
  | float32 bits => FloatFormat.single.text bits.toNat
  | float64 bits => FloatFormat.double.text bits.toNat
  | texts items => Layout.list (items.map Text.quoted)
  | ints items => Layout.list (items.map fun i => toString i.toInt)
  | optionalText item => Layout.option (item.map Text.quoted)
  | optionalInt item => Layout.option (item.map fun i => toString i.toInt)
  | body b => b.written
  | noContent => "NoContent"
  | unit => "()"

/-- The text that stands for an argument where no converter is offered. -/
def naturalText : Argument → String
  | text s => s
  | fixedText s => s
  | char c => String.ofList [c]
  | a => a.written

/-- The value of a text that the argument owns. -/
def text? : Argument → Option String
  | text s => some s
  | _ => none

/-- The value of a signed integer of 64 bits. -/
def int64? : Argument → Option Int
  | signed 64 value => some value.toInt
  | _ => none

/-- The value of an unsigned integer of 64 bits. -/
def uint64? : Argument → Option Nat
  | unsigned 64 value => some value.toNat
  | _ => none

/-- The value of a truth value. -/
def bool? : Argument → Option Bool
  | bool b => some b
  | _ => none

/-- The value of a request body. -/
def body? : Argument → Option RequestBody
  | body b => some b
  | _ => none

end Argument

/-- The positional arguments of one invocation. -/
abbrev Arguments := List Argument

end RemoteCall
