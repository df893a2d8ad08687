import RemoteCall.Call.Scripted
import RemoteCall.Call.Wired
import RemoteCall.Factory.BuiltIn
import RemoteCall.Proofs.AwaitOnce

/-!
What becomes of a raw response, up to the result of an await.

The status alone decides whether the converter is run (`Parses`): not outside 200 to 299, not for
204 and 205, and else once, on the body that was sent. `ParsedByStatus` says what stands in the
envelope, `Carries` that each way to run a call hands over just that envelope, and
`AwaitedByStatus` what an await of the body is ready with. `decoded_by_status` puts these together
for all responses and all converters, stateful ones included.
-/

namespace RemoteCall

variable {σ : Type}

/-! ### Classes of statuses -/

/-- The status is one of success. -/
def RawResponse.Succeeds (raw : RawResponse) : Prop := 200 ≤ raw.status ∧ raw.status ≤ 299

/-- The status is one of success that goes without a body. -/
def RawResponse.Bodiless (raw : RawResponse) : Prop := raw.status = 204 ∨ raw.status = 205

theorem RawResponse.Bodiless.succeeds {raw : RawResponse} (bodiless : raw.Bodiless) :
    raw.Succeeds := by
  rw [Succeeds]
  rcases bodiless with same | same
  · rw [same]
    decide
  · rw [same]
    decide

theorem RawResponse.isSuccess_iff {raw : RawResponse} : raw.isSuccess = true ↔ raw.Succeeds :=
  isSuccessStatus_iff raw.status

theorem RawResponse.isSuccess_eq_false {raw : RawResponse} (fails : ¬ raw.Succeeds) :
    raw.isSuccess = false := by
  rw [Bool.eq_false_iff, ne_eq, isSuccess_iff]
  exact fails

/-! ### Parsing -/

/-- A run of a converter. -/
structure Decoding where
  body : ResponseBody
  result : Except Fault Payload

/-- The converter, with its runs noted beside the plug-in state. -/
def ResponseConverter.noting (convert : ResponseConverter σ) :
    ResponseConverter (σ × List Decoding) := fun body => do
  let (s, runs) ← get
  let (result, t) := (convert body).run s
  set (t, runs ++ [⟨body, result⟩])
  return result

theorem ResponseConverter.run_noting (convert : ResponseConverter σ) (body : ResponseBody) (s : σ)
    (runs : List Decoding) : (convert.noting body).run (s, runs) =
      (((convert body).run s).1, (((convert body).run s).2,
        runs ++ [⟨body, ((convert body).run s).1⟩])) := rfl

/-- What a raw response is parsed to from the plug-in state `s`, with the state that this leaves and
the runs of the converter. -/
inductive Parses (convert : ResponseConverter σ) (raw : RawResponse) (s : σ) :
    Outcome → σ → List Decoding → Prop where
  | failure (fails : ¬ raw.Succeeds) : Parses convert raw s (.ok (.failure raw)) s []
  | empty (bodiless : raw.Bodiless) : Parses convert raw s (.ok (.success raw none)) s []
  | decoded {payload : Payload} {t : σ} (succeeds : raw.Succeeds) (bodied : ¬ raw.Bodiless)
      (ran : (convert raw.body).run s = (.ok payload, t)) :
      Parses convert raw s (.ok (.success raw (some payload))) t [⟨raw.body, .ok payload⟩]
  | undecoded {fault : Fault} {t : σ} (succeeds : raw.Succeeds) (bodied : ¬ raw.Bodiless)
      (ran : (convert raw.body).run s = (.error fault, t)) :
      Parses convert raw s (.error (.conversion fault)) t [⟨raw.body, .error fault⟩]

section Parsing

variable (convert : ResponseConverter σ) {raw : RawResponse} (s : σ)

theorem run_parseResponse_of_fails (fails : ¬ raw.Succeeds) :
    (parseResponse convert raw).run s = (.ok (.failure raw), s) := by
  unfold parseResponse
  rw [RawResponse.isSuccess_eq_false fails]
  rfl

theorem run_parseResponse_of_bodiless (bodiless : raw.Bodiless) :
    (parseResponse convert raw).run s = (.ok (.success raw none), s) := by
  have status : (raw.status = 204 || raw.status = 205) = true := by
    rw [Bool.or_eq_true, decide_eq_true_eq, decide_eq_true_eq]
    exact bodiless
  unfold parseResponse
  rw [RawResponse.isSuccess_iff.mpr bodiless.succeeds, status]
  rfl

theorem run_parseResponse_of_bodied (succeeds : raw.Succeeds) (bodied : ¬ raw.Bodiless) :
    (parseResponse convert raw).run s =
      match (convert raw.body).run s with
      | (.ok payload, t) => (.ok (.success raw (some payload)), t)
      | (.error fault, t) => (.error (.conversion fault), t) := by
  have status : (raw.status = 204 || raw.status = 205) = false := by
    rw [Bool.eq_false_iff, ne_eq, Bool.or_eq_true, decide_eq_true_eq, decide_eq_true_eq]
    exact bodied
  unfold parseResponse
  rw [RawResponse.isSuccess_iff.mpr succeeds, status, if_neg (by decide), if_neg (by decide),
    StateT.run_bind]
  rcases (convert raw.body).run s with ⟨fault | payload, t⟩
  · rfl
  · rfl

end Parsing

/-- Every response is parsed in one of these ways, and noting the runs changes nothing. -/
theorem exists_parses (convert : ResponseConverter σ) (raw : RawResponse) (s : σ) :
    ∃ outcome t runs, (parseResponse convert.noting raw).run (s, []) = (outcome, (t, runs)) ∧
      (parseResponse convert raw).run s = (outcome, t) ∧
        Parses convert raw s outcome t runs := by
  by_cases succeeds : raw.Succeeds
  · by_cases bodiless : raw.Bodiless
    · exact ⟨_, _, _, run_parseResponse_of_bodiless _ _ bodiless,
        run_parseResponse_of_bodiless _ _ bodiless, .empty bodiless⟩
    · rw [run_parseResponse_of_bodied _ _ succeeds bodiless,
        run_parseResponse_of_bodied _ _ succeeds bodiless, ResponseConverter.run_noting]
      rcases ran : (convert raw.body).run s with ⟨fault | payload, t⟩
      · exact ⟨_, _, _, rfl, rfl, .undecoded succeeds bodiless ran⟩
      · exact ⟨_, _, _, rfl, rfl, .decoded succeeds bodiless ran⟩
  · exact ⟨_, _, _, run_parseResponse_of_fails _ _ succeeds,
      run_parseResponse_of_fails _ _ succeeds, .failure succeeds⟩

/-- What stands in the envelope of a raw response. -/
structure Envelope.Shows (e : Envelope) (raw : RawResponse) (runs : List Decoding) : Prop where
  kept : e.status = raw.status ∧ e.message = raw.message ∧ e.headers = raw.headers
  /-- The body that was sent, undecoded, if the status is not one of success. -/
  errorBody : ∀ body, e.errorBody = some body ↔ ¬ raw.Succeeds ∧ body = raw.body
  /-- What the converter has made of the body that was sent. -/
  body : ∀ payload, e.body = some payload ↔ runs = [⟨raw.body, .ok payload⟩]
  notBoth : e.body = none ∨ e.errorBody = none

theorem Envelope.failure_shows {raw : RawResponse} (fails : ¬ raw.Succeeds) :
    (Envelope.failure raw).Shows raw [] where
  kept := ⟨rfl, rfl, rfl⟩
  errorBody body := by
    rw [failure, Option.some_inj, eq_comm]
    exact (and_iff_right fails).symm
  body payload := iff_of_false nofun nofun
  notBoth := Or.inl rfl

theorem Envelope.success_shows {raw : RawResponse} (succeeds : raw.Succeeds)
    {body : Option Payload} {runs : List Decoding}
    (decoded : ∀ payload, body = some payload ↔ runs = [⟨raw.body, .ok payload⟩]) :
    (Envelope.success raw body).Shows raw runs where
  kept := ⟨rfl, rfl, rfl⟩
  errorBody _ := iff_of_false nofun fun fails => fails.1 succeeds
  body := decoded
  notBoth := Or.inr rfl

/-- What a raw response is parsed to, and when the converter is run. -/
structure ParsedByStatus (convert : ResponseConverter σ) (raw : RawResponse) (s t : σ)
    (outcome : Outcome) (runs : List Decoding) : Prop where
  /-- The converter is run once, on the body that was sent. -/
  ran : raw.Succeeds → ¬ raw.Bodiless →
    runs = [⟨raw.body, ((convert raw.body).run s).1⟩] ∧ t = ((convert raw.body).run s).2
  /-- It is never run. -/
  notRun : ¬ raw.Succeeds ∨ raw.Bodiless → runs = [] ∧ t = s
  envelope : ∀ {e}, outcome = .ok e → e.Shows raw runs
  failed : ∀ error, outcome = .error error ↔
    ∃ fault, runs = [⟨raw.body, .error fault⟩] ∧ error = .conversion fault

namespace Parses

variable {convert : ResponseConverter σ} {raw : RawResponse} {s t : σ} {outcome : Outcome}
  {runs : List Decoding}

theorem shows {e : Envelope} (parses : Parses convert raw s (.ok e) t runs) :
    e.Shows raw runs := by
  cases parses with
  | failure fails => exact Envelope.failure_shows fails
  | empty bodiless =>
      exact Envelope.success_shows bodiless.succeeds fun _ => iff_of_false nofun nofun
  | decoded succeeds _ _ =>
      refine Envelope.success_shows succeeds fun payload => ?_
      simp only [Option.some.injEq, List.cons.injEq, Decoding.mk.injEq, Except.ok.injEq, true_and,
        and_true]

theorem eq_error_iff (parses : Parses convert raw s outcome t runs) (error : Error) :
    outcome = .error error ↔
      ∃ fault, runs = [⟨raw.body, .error fault⟩] ∧ error = .conversion fault := by
  cases parses with
  | failure _ => exact iff_of_false nofun nofun
  | empty _ => exact iff_of_false nofun nofun
  | decoded _ _ _ => exact iff_of_false nofun nofun
  | @undecoded fault _ _ _ _ =>
      constructor
      · rintro ⟨⟩
        exact ⟨fault, rfl, rfl⟩
      · rintro ⟨_, ⟨⟩, rfl⟩
        rfl

theorem parsedByStatus (parses : Parses convert raw s outcome t runs) :
    ParsedByStatus convert raw s t outcome runs where
  ran succeeds bodied := by
    cases parses with
    | failure fails => exact absurd succeeds fails
    | empty bodiless => exact absurd bodiless bodied
    | decoded _ _ ran =>
        rw [ran]
        exact ⟨rfl, rfl⟩
    | undecoded _ _ ran =>
        rw [ran]
        exact ⟨rfl, rfl⟩
  notRun unread := by
    cases parses with
    | failure _ => exact ⟨rfl, rfl⟩
    | empty _ => exact ⟨rfl, rfl⟩
    | decoded succeeds bodied _ => exact absurd unread (by simp [succeeds, bodied])
    | undecoded succeeds bodied _ => exact absurd unread (by simp [succeeds, bodied])
  envelope := by
    rintro e rfl
    exact parses.shows
  failed := parses.eq_error_iff

end Parses

/-! ### The ways to run a call -/

/-- A call that gets the raw response and is not canceled hands over the outcome, whichever way it
is run. -/
structure Carries (convert : ResponseConverter σ) (raw : RawResponse) (s t : σ)
    (outcome : Outcome) : Prop where
  scriptedExecute : ∀ {γ : Type} {call : ScriptedCall σ γ}, call.converter = convert →
    call.script = .reply raw → call.executed = false → call.canceled = false →
      call.execute.run s = ((outcome, { call with executed := true }), t)
  scriptedEnqueue : ∀ {γ : Type} {call : ScriptedCall σ γ}, call.converter = convert →
    call.script = .reply raw → call.executed = false → call.canceled = false → ∀ callback,
      (call.enqueue callback).run s = ((some outcome, { call with executed := true }), t)
  /-- A hanging call that is completed calls the callback that waits. -/
  scriptedComplete : ∀ {γ : Type} {call : ScriptedCall σ γ} {callback : γ},
    call.converter = convert → call.parked = some callback →
      (call.complete raw).run s = ((some (callback, outcome), { call with parked := none }), t)
  wiredExecute : ∀ {τ : Type} {call : TransportCall σ τ}, call.converter = convert →
    call.executed = false → call.canceled = false → ∀ context, context ≠ .currentThread →
      (call.execute context (some (.ok raw))).run s =
        ((some outcome, { call with executed := true }), t)
  /-- The task of an enqueued call polls it with the answer of the transport, then delivers. -/
  wiredEnqueue : ∀ {τ γ : Type} {call : TransportCall σ τ}, call.converter = convert →
    call.executed = false → call.canceled = false → ∀ callback : γ,
      call.enqueue callback = (.ok ⟨some callback⟩, { call with executed := true }) ∧
      (({ call with executed := true } : TransportCall σ τ).poll (some (.ok raw))).run s =
        (some outcome, t) ∧
      (⟨some callback⟩ : Delivery γ).finish outcome = [(callback, outcome)]

theorem run_poll_of_answer {τ : Type} {call : TransportCall σ τ} (free : call.canceled = false)
    {raw : RawResponse} {s t : σ} {outcome : Outcome}
    (parsed : (parseResponse call.converter raw).run s = (outcome, t)) :
    (call.poll (some (.ok raw))).run s = (some outcome, t) := by
  rw [TransportCall.poll, free, if_neg (by decide)]
  exact congrArg (fun p => (some p.1, p.2)) parsed

theorem carries_of_run {convert : ResponseConverter σ} {raw : RawResponse} {s t : σ}
    {outcome : Outcome} (parsed : (parseResponse convert raw).run s = (outcome, t)) :
    Carries convert raw s t outcome where
  scriptedExecute := by
    rintro γ ⟨request, _, _, _, _, parked⟩ rfl rfl rfl rfl
    exact congrArg (fun p => ((p.1, _), p.2)) parsed
  scriptedEnqueue := by
    rintro γ ⟨request, _, _, _, _, parked⟩ rfl rfl rfl rfl callback
    exact congrArg (fun p => ((some p.1, _), p.2)) parsed
  scriptedComplete := by
    rintro γ ⟨request, _, script, executed, canceled, _⟩ callback rfl rfl
    exact congrArg (fun p => ((some (callback, p.1), _), p.2)) parsed
  wiredExecute := by
    rintro τ call rfl idle free context blocking
    have claimed : call.claimHere context = (none, { call with executed := true }) := by
      rw [TransportCall.claimHere, if_neg blocking, TransportCall.claim, idle]
      rfl
    have polled : (({ call with executed := true } : TransportCall σ τ).poll
        (some (.ok raw))).run s = (some outcome, t) := run_poll_of_answer free parsed
    rw [TransportCall.execute, claimed]
    simp only [StateT.run_bind, polled]
    rfl
  wiredEnqueue := by
    rintro τ γ call rfl idle free callback
    refine ⟨?_, run_poll_of_answer free parsed, rfl⟩
    rw [TransportCall.enqueue, TransportCall.claim, idle]
    rfl

/-! ### Awaits -/

namespace Bridge

variable {purpose : Purpose} {history : List (Bridge × BridgeStep)} {b : Bridge} {outcome : Outcome}

/-- An await whose callback was called is ready with the outcome and nothing else. -/
theorem result_eq_of_invoked (run : Run step? { purpose } history b)
    (invoked : Happened history (.invoke outcome)) :
    ∀ result ∈ b.results, result = purpose.result outcome := by
  have called := (called_of_run run outcome).mpr invoked
  intro result mem
  rcases result_of_run run mem with ⟨other, happened, rfl⟩ | ⟨discarded, _⟩
  · have := (called_of_run run other).mpr happened
    rw [called] at this
    cases this
    rfl
  · have := (dropped_of_run run).mpr discarded
    rw [called] at this
    cases this

end Bridge

/-- What an await of the body is ready with. -/
structure AwaitedByStatus (raw : RawResponse) (runs : List Decoding) (method : String)
    (nullable : Bool) (result : Except Error Awaited) : Prop where
  status : ∀ code message, result = .error (.status code message) ↔
    ¬ raw.Succeeds ∧ code = raw.status ∧ message = raw.message
  /-- Whatever was sent, there is no body. -/
  bodiless : raw.Bodiless →
    result = if nullable then .ok (.value none) else .error (.missingBody method)
  /-- The body is what the converter has made of it, and its fault is the error. -/
  bodied : raw.Succeeds → ¬ raw.Bodiless →
    (∃ payload, runs = [⟨raw.body, .ok payload⟩] ∧ result = .ok (.value (some payload))) ∨
      ∃ fault, runs = [⟨raw.body, .error fault⟩] ∧ result = .error (.conversion fault)

theorem Envelope.awaitedBody_failure {raw : RawResponse} (fails : ¬ raw.Succeeds) (method : String)
    (nullable : Bool) : (Envelope.failure raw).awaitedBody method nullable =
      .error (.status raw.status raw.message) := by
  have status : (Envelope.failure raw).isSuccess = false := RawResponse.isSuccess_eq_false fails
  rw [awaitedBody, status]
  rfl

theorem Envelope.awaitedBody_success {raw : RawResponse} (succeeds : raw.Succeeds)
    (body : Option Payload) (method : String) (nullable : Bool) :
    (Envelope.success raw body).awaitedBody method nullable =
      match body with
      | some payload => .ok (some payload)
      | none => if nullable then .ok none else .error (.missingBody method) := by
  have status : (Envelope.success raw body).isSuccess = true :=
    RawResponse.isSuccess_iff.mpr succeeds
  rw [awaitedBody, status]
  rfl

theorem Parses.awaitedByStatus {convert : ResponseConverter σ} {raw : RawResponse} {s t : σ}
    {outcome : Outcome} {runs : List Decoding} (parses : Parses convert raw s outcome t runs)
    (method : String) (nullable : Bool) :
    AwaitedByStatus raw runs method nullable ((Purpose.value method nullable).result outcome) := by
  cases parses with
  | failure fails =>
      rw [Purpose.result, Envelope.awaitedBody_failure fails]
      constructor
      · intro code message
        constructor
        · rintro ⟨⟩
          exact ⟨fails, rfl, rfl⟩
        · rintro ⟨_, rfl, rfl⟩
          rfl
      · intro bodiless
        exact absurd bodiless.succeeds fails
      · intro succeeds
        exact absurd succeeds fails
  | empty bodiless =>
      rw [Purpose.result, Envelope.awaitedBody_success bodiless.succeeds]
      constructor
      · intro code message
        refine iff_of_false ?_ fun other => other.1 bodiless.succeeds
        intro same
        cases nullable <;> cases same
      · intro _
        cases nullable <;> rfl
      · intro _ bodied
        exact absurd bodiless bodied
  | @decoded payload _ succeeds bodied _ =>
      rw [Purpose.result, Envelope.awaitedBody_success succeeds]
      constructor
      · intro code message
        refine iff_of_false ?_ fun other => other.1 succeeds
        rintro ⟨⟩
      · intro bodiless
        exact absurd bodiless bodied
      · intro _ _
        exact Or.inl ⟨payload, rfl, rfl⟩
  | @undecoded fault _ succeeds bodied _ =>
      constructor
      · intro code message
        refine iff_of_false ?_ fun other => other.1 succeeds
        rintro ⟨⟩
      · intro bodiless
        exact absurd bodiless bodied
      · intro _ _
        exact Or.inr ⟨fault, rfl, rfl⟩

/-- What becomes of a raw response whose call is run from the plug-in state `s`. -/
structure DecodedByStatus (convert : ResponseConverter σ) (raw : RawResponse) (s t : σ)
    (outcome : Outcome) (runs : List Decoding) : Prop where
  /-- The outcome, and the runs of the converter on the way. -/
  noted : (parseResponse convert.noting raw).run (s, []) = (outcome, (t, runs))
  /-- Without the notes, the response is parsed to the same. -/
  unnoted : (parseResponse convert raw).run s = (outcome, t)
  parsed : ParsedByStatus convert raw s t outcome runs
  carried : Carries convert raw s t outcome
  /-- The ways to run a call do not run the converter any oftener. -/
  carriedNoted : Carries convert.noting raw (s, []) (t, runs) outcome
  /-- An await whose callback is called with the outcome is ready with the outcome, at the next
  poll. -/
  resumes : ∀ {purpose history b}, Run Bridge.step? { purpose } history b →
    Happened history (.invoke outcome) →
      (∀ result ∈ b.results, result = purpose.result outcome) ∧
      (b.results = [] → b.present = true → ∃ b',
        (if b.polling then [.endPoll] else [.beginPoll, .endPoll]).foldlM Bridge.step? b = some b' ∧
          b'.results = [purpose.result outcome])
  /-- What the result of an await of the body is. -/
  value : ∀ method nullable,
    AwaitedByStatus raw runs method nullable ((Purpose.value method nullable).result outcome)
  /-- An await of the envelope does not look at the status. -/
  envelope : Purpose.envelope.result outcome = outcome.map .envelope

/-- The status alone decides what becomes of a response: whether it is decoded, what stands in the
envelope that each kind of call hands over, and what an await is ready with. -/
theorem decoded_by_status (convert : ResponseConverter σ) (raw : RawResponse) (s : σ) :
    ∃ t outcome runs, DecodedByStatus convert raw s t outcome runs := by
  obtain ⟨outcome, t, runs, noted, unnoted, parses⟩ := exists_parses convert raw s
  refine ⟨t, outcome, runs, {
    noted := noted
    unnoted := unnoted
    parsed := parses.parsedByStatus
    carried := carries_of_run unnoted
    carriedNoted := carries_of_run noted
    resumes := ?_
    value := parses.awaitedByStatus
    envelope := ?_ }⟩
  · intro purpose history b run invoked
    exact ⟨Bridge.result_eq_of_invoked run invoked, Bridge.readyWith_of_invoked run invoked⟩
  · cases outcome with
    | error error => rfl
    | ok e => rfl

/-- With status 205 a body that was sent is not looked at; with 206 it is. -/
example : (parseResponse (passBody : ResponseConverter Unit) ⟨205, "", [], ⟨none, [1]⟩⟩).run () =
      (.ok ⟨205, "", [], none, none⟩, ()) ∧
    (parseResponse (passBody : ResponseConverter Unit) ⟨206, "", [], ⟨none, [1]⟩⟩).run () =
      (.ok ⟨206, "", [], some (.body ⟨none, [1]⟩), none⟩, ()) := ⟨rfl, rfl⟩

end RemoteCall
