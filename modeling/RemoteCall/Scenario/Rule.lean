import RemoteCall.Scenario.Event

/-!
Scripted factories: factories that answer by a list of rules.

Such a factory reports that it is asked and then tries its rules in order. A rule that fits the
question either ends the search (`pass`, `fault`, `offer`) or makes a remark and leaves the question
to the rules after it (`check`, `reportClient`).
-/

namespace RemoteCall.Scenario

/-! ### Codecs -/

/-- A scripted response converter. -/
inductive Decoder where
  /-- The body as text, behind the text `lead`. -/
  | text (lead : String)
  /-- The number of bytes. -/
  | length
  | body
  | unit
  | fail (fault : Fault)

/-- The converter that a decoder describes. -/
def Decoder.converter {σ : Type} : Decoder → ResponseConverter σ
  | text lead => fun body =>
    pure <|
      match Utf8.decode body.bytes with
      | .ok s => .ok (.text (lead ++ s))
      | .error failure => .error (.plain failure.text)
  | length => fun body => pure (.ok (.number (UInt64.ofNat body.bytes.length)))
  | body => passBody
  | unit => discardBodyAsUnit
  | fail fault => fun _ => pure (.error fault)

/-- A scripted request or string converter: it fails, or writes the argument behind the text
`lead`. -/
structure Encoder where
  failure : Option Fault
  contentType : String
  lead : String

namespace Encoder

variable {σ : Type}

/-- The text that an encoder makes of an argument. -/
def text (e : Encoder) : StringConverter σ := fun argument =>
  pure (e.failure.elim (.ok (e.lead ++ argument.naturalText)) .error)

/-- The body that an encoder makes of an argument. -/
def body (e : Encoder) : RequestConverter σ := fun argument => do
  return (← e.text argument).map fun s => ⟨some e.contentType, Utf8.encode s⟩

end Encoder

/-- A converter whose texts get `lead` in front. -/
def leadingText {σ : Type} (lead : String) (inner : ResponseConverter σ) : ResponseConverter σ :=
  fun body => do
    return (← inner body).map fun
      | .text s => .text (lead ++ s)
      | payload => payload

/-- A converter whose bodies get `lead` in front. -/
def leadingBytes {σ : Type} (lead : String) (inner : RequestConverter σ) : RequestConverter σ :=
  fun argument => do
    return (← inner argument).map fun b => { b with bytes := Utf8.encode lead ++ b.bytes }

/-! ### Adapters -/

/-- What a scripted adapter makes of a call. -/
inductive Adaptation where
  | fail (fault : Fault)
  /-- A text with the verb and the URL. -/
  | text
  | unit
  /-- Runs the call; its decoded body, or unit. -/
  | body
  /-- Cancels the call and passes it on. -/
  | canceled
  /-- Passes a copy of the call on. -/
  | clone
  | pass

/-- The payload of a call that was run; a failed one is passed on as a fault. -/
def bodyOf : Option Outcome → Except Fault Payload
  | some (.ok envelope) => .ok (envelope.body.getD .unit)
  | some (.error error) => .error (.carried error)
  | none => .ok .unit

/-- A scripted adapter, around another adapter if there is one. -/
def scriptedAdapter (name : String) (responseType : Shape) (adaptation : Adaptation)
    (inner : Option (CallAdapter Notes Listener)) : CallAdapter Notes Listener where
  responseType
  adapt call := do
    let request ← Action.requestOf call
    report (.adapted name request.url)
    match adaptation with
    | .fail fault => return .error fault
    | .text => return .ok (.text (request.verb.text ++ " " ++ request.url))
    | .unit => return .ok .unit
    | .body => .execute call fun outcome => .done (bodyOf outcome)
    | .canceled => .cancel call (passOn call)
    | .clone => .clone call passOn
    | .pass => passOn call
where
  /-- The inner adapter's result, or the call itself. -/
  passOn (call : CallRef) : Act (Except Fault Payload) :=
    match inner with
    | some adapter => adapter.adapt call
    | none => .done (.ok (.call call))

/-! ### Rules -/

/-- For which shape a rule makes its offer. -/
inductive Target where
  | probed
  | given (shape : Shape)
  /-- The first parameter of the probed shape; without one there is no match. -/
  | firstParameter

/-- The shape that is meant, given the probed one. -/
def Target.shape? (probed : Shape) : Target → Option Shape
  | .probed => some probed
  | given shape => some shape
  | firstParameter => probed.param? 0

/-- Where an offer comes from. -/
inductive Way where
  /-- A converter of the factory's own. -/
  | convert
  /-- An adapter of the factory's own. -/
  | adapt
  /-- What the client offers otherwise. -/
  | delegate (origin : Origin)

/-- An offer of a rule. -/
structure OfferSpec where
  target : Target
  way : Way
  /-- A tag that is added to the tags of a delegated question. -/
  withTag : Option String
  /-- The text put in front of what a delegate makes. -/
  lead : String
  decoder : Decoder
  encoder : Encoder
  adaptation : Adaptation

/-- What a rule does. -/
inductive RuleAct where
  | pass
  | fault (fault : Fault)
  /-- Looks something up and reports the result. -/
  | check (via : Capability) (shape : Shape)
  /-- Reports the base URL of the client. -/
  | reportClient
  | offer (offer : OfferSpec)

/-- The four kinds of questions. -/
inductive QuestionKind where
  | adapter | response | request | string
deriving DecidableEq

/-- The kind of a question. -/
def kindOf : Query → QuestionKind
  | .callAdapter .. => .adapter
  | .responseConverter .. => .response
  | .requestConverter .. => .request
  | .stringConverter .. => .string

/-- A rule: the conditions that are given must hold. -/
structure Rule where
  question : Option QuestionKind
  raw : Option String
  shape : Option Shape
  tag : Option String
  /-- How often the rule applies; later fits are passed over. -/
  times : Option Nat
  act : RuleAct

/-- Whether the conditions of a rule hold. -/
def Rule.fits (r : Rule) (q : Query) : Bool :=
  r.question.all (· = kindOf q) && r.raw.all q.shape.is && r.shape.all (· = q.shape) &&
    r.tag.all fun t => q.tags.any (·.contains t)

/-- Tags with one more, if one is given. -/
def addTag (m : Metadata) : Option String → Metadata
  | none => m
  | some tag => m.insert tag

/-- The answer that an offer gives to a question. -/
def OfferSpec.answer (o : OfferSpec) (name : String) :
    (q : Query) → Probe Notes Listener (q.Offer Notes Listener)
  | .responseConverter probed tags =>
    match o.target.shape? probed, o.way with
    | some _, .convert => .offer o.decoder.converter
    | some shape, .delegate origin =>
      .ask origin (.responseConverter shape (addTag tags o.withTag)) fun
        | .error error => .fail (.carried error)
        | .ok inner => .offer (leadingText o.lead inner)
    | _, _ => .pass
  | .requestConverter probed parameter method =>
    match o.target.shape? probed, o.way with
    | some _, .convert => .offer o.encoder.body
    | some shape, .delegate origin =>
      .ask origin (.requestConverter shape (addTag parameter o.withTag) method) fun
        | .error error => .fail (.carried error)
        | .ok inner => .offer (leadingBytes o.lead inner)
    | _, _ => .pass
  | .stringConverter probed _ =>
    match o.target.shape? probed, o.way with
    | some _, .convert => .offer o.encoder.text
    | _, _ => .pass
  | .callAdapter probed tags =>
    match o.target.shape? probed, o.way with
    | some shape, .adapt => .offer (scriptedAdapter name shape o.adaptation none)
    | some shape, .delegate .next =>
      .ask .next (.callAdapter shape (addTag tags o.withTag)) fun
        | .error error => .fail (.carried error)
        | .ok inner =>
          .offer (scriptedAdapter name (CallAdapter.responseType inner) o.adaptation (some inner))
    | _, _ => .pass

/-- Looks a shape up, reports the result, and goes on. -/
def checkThen {α : Type} (name : String) (via : Capability) (shape : Shape) (tags : Metadata)
    (rest : Probe Notes Listener α) : Probe Notes Listener α :=
  match via with
  | .responseConverter =>
    .ask .next (.responseConverter shape tags) fun found =>
      .modify (·.report (.checked name (found.map fun _ => none))) rest
  | .requestConverter =>
    .ask .next (.requestConverter shape tags tags) fun found =>
      .modify (·.report (.checked name (found.map fun _ => none))) rest
  | .callAdapter =>
    .ask .next (.callAdapter shape tags) fun found =>
      .modify (·.report (.checked name (found.map fun a => some (CallAdapter.responseType a)))) rest

/-- What a fitting rule answers; `rest` is the answer of the rules after it. -/
def RuleAct.answer (name : String) (q : Query) (l : Lookup)
    (rest : Probe Notes Listener (q.Offer Notes Listener)) :
    RuleAct → Probe Notes Listener (q.Offer Notes Listener)
  | pass => .pass
  | fault f => .fail f
  | check via shape => checkThen name via shape (q.tags.headD .empty) rest
  | reportClient => .modify (·.report (.client l.baseUrl)) rest
  | offer o => o.answer name q

/-- The answer of a list of rules, the first of which has the given index. -/
def answerRules (key : Nat) (name : String) (q : Query) (l : Lookup) :
    Nat → List Rule → Probe Notes Listener (q.Offer Notes Listener)
  | _, [] => .pass
  | index, r :: rs =>
    let rest := answerRules key name q l (index + 1) rs
    if r.fits q then
      match r.times with
      | none => r.act.answer name q l rest
      | some limit => .read fun notes =>
        .write (notes.count (key, index)) <|
          if notes.usesOf (key, index) < limit then r.act.answer name q l rest else rest
    else rest

/-- A factory that answers by rules. -/
def scriptedFactory (key : Nat) (name : String) (rules : List Rule) : Factory Notes Listener where
  key
  probe q l :=
    .modify (·.report (.asked name q l.position)) (answerRules key name q l 0 rules)

end RemoteCall.Scenario
