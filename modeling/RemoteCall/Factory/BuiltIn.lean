import RemoteCall.Factory.Probe

/-!
The factories that every client has: raw bodies and payloads without content, and the adapter for
declared calls. A further factory decodes text.
-/

namespace RemoteCall

variable {σ κ : Type}

/-! ### Converters without a codec -/

/-- The undecoded body itself. -/
def passBody : ResponseConverter σ := fun body => pure (.ok (.body body))

/-- The marker for no content, whatever the body is. -/
def discardBody : ResponseConverter σ := fun _ => pure (.ok .noContent)

/-- The unit value, whatever the body is. -/
def discardBodyAsUnit : ResponseConverter σ := fun _ => pure (.ok .unit)

/-- An argument that is a request body already. -/
def passRequestBody : RequestConverter σ := fun argument =>
  pure <|
    match argument.body? with
    | some body => .ok body
    | none => .error (.plain ("argument is not a RequestBody: " ++ argument.written))

/-- The answer of the built-in converters. -/
def builtInProbe : (q : Query) → Probe σ κ (q.Offer σ κ)
  | .responseConverter shape _ =>
    if shape.is Shape.responseBodyName then .offer passBody
    else if shape.is Shape.noContentName then .offer discardBody
    else if shape = .unit then .offer discardBodyAsUnit
    else .pass
  | .requestConverter shape _ _ =>
    if shape.is Shape.requestBodyName then .offer passRequestBody else .pass
  | .stringConverter .. => .pass
  | .callAdapter .. => .pass

/-- The converters that come first in every client. -/
def builtInConverters (key : Nat) : Factory σ κ := ⟨key, fun q _ => builtInProbe q⟩

/-! ### Declared calls -/

/-- The adapter that hands a call over as it is, or under a wrapper that runs its callbacks on an
executor. -/
def callItself (responseType : Shape) (executor : Option Executor) : CallAdapter σ κ where
  responseType
  adapt call := pure (.ok (.call (executor.elim call fun e => .dispatching e call)))

/-- The failure for a declared call that does not say what it is a call of. -/
def bareCall : Error := .configuration none "Call return type must be parameterized as Call<Foo>"

/-- The answer of the default adapter: it matches `Call<T>`. The executor is left out for methods
with the tag that asks for it. -/
def defaultAdapterProbe (executor : Option Executor) : (q : Query) → Probe σ κ (q.Offer σ κ)
  | .callAdapter shape tags =>
    if !shape.is Shape.callName then .pass
    else
      match shape.param? 0 with
      | none => .fail (.carried bareCall)
      | some payload =>
        .offer (callItself payload
          (if tags.contains Metadata.skipCallbackExecutor then none else executor))
  | .responseConverter .. => .pass
  | .requestConverter .. => .pass
  | .stringConverter .. => .pass

/-- The adapter that comes last in every client. -/
def defaultAdapter (key : Nat) (executor : Option Executor) : Factory σ κ :=
  ⟨key, fun q _ => defaultAdapterProbe executor q⟩

/-! ### Text -/

/-- The body as text. -/
def decodeText : ResponseConverter σ := fun body =>
  pure <|
    match Utf8.decode body.bytes with
    | .ok s => .ok (.text s)
    | .error failure => .error (.plain failure.text)

/-- Decodes bodies as text where exactly the shape `textShape` is asked for. -/
def textConverters (key : Nat) (textShape : Shape) : Factory σ κ where
  key
  probe
    | .responseConverter shape _, _ => if shape = textShape then .offer decodeText else .pass
    | .requestConverter .., _ => .pass
    | .stringConverter .., _ => .pass
    | .callAdapter .., _ => .pass

end RemoteCall
