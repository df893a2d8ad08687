import RemoteCall.Call.Maker
import RemoteCall.Factory.BuiltIn
import RemoteCall.Factory.Chain

/-!
Clients: the settings under which methods are resolved and called.

A `ClientSettings` collects what the user gives; `ClientSettings.build` checks it and adds the
factories that every client has: the built-in converters before the user's, the default adapter
after the user's. `Client.settings` leads back; it leaves the added factories out, so building again
gives the same chains.
-/

namespace RemoteCall

/-- What a user gives to make a client. -/
structure ClientSettings (σ κ : Type) where
  baseUrl : Option String := none
  calls : Option CallMaker := none
  converters : Chain (Factory σ κ) := .empty
  adapters : Chain (Factory σ κ) := .empty
  executor : Option Executor := none
  eager : Bool := false

/-- A client. -/
structure Client (σ κ : Type) where
  baseUrl : String
  calls : CallMaker
  /-- All converter factories, the built-in ones first. -/
  converters : Chain (Factory σ κ)
  /-- All adapter factories, the default one last. -/
  adapters : Chain (Factory σ κ)
  /-- The converter factories that the user gave. -/
  userConverters : Chain (Factory σ κ)
  /-- The adapter factories that the user gave. -/
  userAdapters : Chain (Factory σ κ)
  /-- Where the default adapter has callbacks run. -/
  executor : Option Executor
  /-- Whether methods are resolved when they are registered. -/
  eager : Bool

variable {σ κ : Type}

/-- The built-in converters before the given ones. -/
def withBuiltIns (converters : Chain (Factory σ κ)) : Chain (Factory σ κ) :=
  (Chain.empty.push "BuiltInConverters" (builtInConverters 0)).append converters

/-- The default adapter after the given ones. -/
def withDefault (adapters : Chain (Factory σ κ)) (executor : Option Executor) :
    Chain (Factory σ κ) :=
  adapters.push "DefaultCallAdapterFactory" (defaultAdapter 0 executor)

/-- Makes a client. The base URL is checked first, then the call maker. -/
def ClientSettings.build (s : ClientSettings σ κ) : Except Error (Client σ κ) :=
  match s.baseUrl with
  | none => .error (.setup "Base URL required.")
  | some baseUrl =>
    if baseUrl.toList.getLast? ≠ some '/' then
      .error (.setup ("baseUrl must end in /: " ++ baseUrl))
    else
      match s.calls with
      | none => .error (.setup "Call factory required.")
      | some calls => .ok {
          baseUrl, calls
          converters := withBuiltIns s.converters
          adapters := withDefault s.adapters s.executor
          userConverters := s.converters
          userAdapters := s.adapters
          executor := s.executor
          eager := s.eager }

/-- The settings of a client, to make another one from. -/
def Client.settings (c : Client σ κ) : ClientSettings σ κ where
  baseUrl := some c.baseUrl
  calls := some c.calls
  converters := c.userConverters
  adapters := c.userAdapters
  executor := c.executor
  eager := c.eager

end RemoteCall
