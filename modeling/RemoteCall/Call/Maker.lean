import RemoteCall.Call.Scripted
import RemoteCall.Call.Wired

/-!
Call makers: where the calls of a client come from.
-/

namespace RemoteCall

/-- How a transport deals with one request. -/
inductive Connection where
  | answers (reply : Reply)
  | silent
  /-- The answer comes when `key` is released. -/
  | held (key : String)

/-- Whether the answer comes when the key is released. -/
def Connection.awaits (key : String) : Connection → Bool
  | .held other => other == key
  | _ => false

/-- The source of a client's calls. -/
inductive CallMaker where
  /-- Scripted calls. The maker keeps every call it makes; `number` tells makers apart. -/
  | scripted (number : Nat) (respond : Request → Script)
  /-- Calls over a transport. -/
  | wired (connect : Request → Connection)
  /-- Calls that drop the callback of every `enqueue`. -/
  | lossy

/-- The number of a maker that keeps its calls. -/
def CallMaker.number? : CallMaker → Option Nat
  | scripted number _ => some number
  | _ => none

end RemoteCall
