import RemoteCall.Client.Config

/-!
Setting a client up, one setting at a time.

A `Setting` is one thing that a user says about a client. A later setting replaces an earlier one
of its kind, but factories add up: each lands behind those that were given before it. A client is
made from nothing (`ClientSettings.setAll {}`), or from the settings of another one
(`Client.derive`).
-/

namespace RemoteCall

/-- One thing that a user says about a client. -/
inductive Setting (σ κ : Type) where
  | baseUrl (url : String)
  | calls (maker : CallMaker)
  | converter (name : String) (factory : Factory σ κ)
  | adapter (name : String) (factory : Factory σ κ)
  | executor (executor : Executor)
  | eager (flag : Bool)

variable {σ κ : Type}

namespace Setting

/-- The converter factory that is added. -/
def converter? : Setting σ κ → Option (Entry (Factory σ κ))
  | .converter name factory => some ⟨name, factory⟩
  | _ => none

/-- The adapter factory that is added. -/
def adapter? : Setting σ κ → Option (Entry (Factory σ κ))
  | .adapter name factory => some ⟨name, factory⟩
  | _ => none

/-- The base URL that is set. -/
def baseUrl? : Setting σ κ → Option String
  | .baseUrl url => some url
  | _ => none

/-- The call maker that is set. -/
def calls? : Setting σ κ → Option CallMaker
  | .calls maker => some maker
  | _ => none

/-- The callback executor that is set. -/
def executor? : Setting σ κ → Option Executor
  | .executor e => some e
  | _ => none

/-- The flag that is set. -/
def eager? : Setting σ κ → Option Bool
  | .eager flag => some flag
  | _ => none

end Setting

namespace ClientSettings

/-- The settings with one thing more said. -/
def set (s : ClientSettings σ κ) : Setting σ κ → ClientSettings σ κ
  | .baseUrl url => { s with baseUrl := some url }
  | .calls maker => { s with calls := some maker }
  | .converter name factory => { s with converters := s.converters.push name factory }
  | .adapter name factory => { s with adapters := s.adapters.push name factory }
  | .executor executor => { s with executor := some executor }
  | .eager flag => { s with eager := flag }

/-- The settings with several things more said, one after the other. -/
def setAll (s : ClientSettings σ κ) (steps : List (Setting σ κ)) : ClientSettings σ κ :=
  steps.foldl set s

end ClientSettings

namespace Client

/-- Makes a client from another one, with some things said anew. -/
def derive (c : Client σ κ) (steps : List (Setting σ κ)) : Except Error (Client σ κ) :=
  (c.settings.setAll steps).build

/-- Copies a client, copies the copy, and so on. -/
def copied (c : Client σ κ) : Nat → Except Error (Client σ κ)
  | 0 => .ok c
  | n + 1 => do (← c.copied n).settings.build

end Client

end RemoteCall
