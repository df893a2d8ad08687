import RemoteCall.Call.Bridge
import RemoteCall.Proofs.Run

/-!
A future resumes once, and cancels its call exactly if it is abandoned.

A bridge is always in one of five phases (`Phase`), and from each phase there are few ways to go on
(`Move`). `Purpose.Gives` says which result goes with which outcome of the call. `awaits_once` says
what holds after every run: it counts the enqueues and cancels of the bridge and says which result a
poll has been ready with, and which one the next poll will be ready with.
-/

namespace RemoteCall

/-- The cell holds what the callback has left there. -/
inductive CallbackFate.Agrees : CallbackFate → ResultCell → Prop where
  | held : Agrees .held .empty
  | called (outcome : Outcome) : Agrees (.called outcome) (.filled outcome)
  | dropped : Agrees .dropped .abandoned

/-- What a callback that is gone has left for the await. -/
def CallbackFate.outcome? : CallbackFate → Option Outcome
  | called outcome => some outcome
  | dropped => some (.error noOutcome)
  | _ => none

/-! ### Results -/

/-- The status is one of success. -/
def Envelope.Succeeds (e : Envelope) : Prop := 200 ≤ e.status ∧ e.status ≤ 299

theorem Envelope.isSuccess_iff {e : Envelope} : e.isSuccess = true ↔ e.Succeeds :=
  isSuccessStatus_iff e.status

/-- Which result a future gives, by what it waits for and how its call has ended. -/
inductive Purpose.Gives : Purpose → Outcome → Except Error Awaited → Prop where
  | failed (purpose : Purpose) (error : Error) : Gives purpose (.error error) (.error error)
  | envelope (e : Envelope) : Gives .envelope (.ok e) (.ok (.envelope e))
  | refused {method : String} {nullable : Bool} {e : Envelope} (fails : ¬ e.Succeeds) :
      Gives (.value method nullable) (.ok e) (.error (.status e.status e.message))
  | body {method : String} {nullable : Bool} {e : Envelope} {payload : Payload}
      (succeeds : e.Succeeds) (there : e.body = some payload) :
      Gives (.value method nullable) (.ok e) (.ok (.value (some payload)))
  | noBody {method : String} {e : Envelope} (succeeds : e.Succeeds) (missing : e.body = none) :
      Gives (.value method true) (.ok e) (.ok (.value none))
  | missingBody {method : String} {e : Envelope} (succeeds : e.Succeeds) (missing : e.body = none) :
      Gives (.value method false) (.ok e) (.error (.missingBody method))

theorem Purpose.result_error (purpose : Purpose) (error : Error) :
    purpose.result (.error error) = .error error := by
  cases purpose <;> rfl

theorem Purpose.gives_result (purpose : Purpose) (outcome : Outcome) :
    purpose.Gives outcome (purpose.result outcome) := by
  cases outcome with
  | error error =>
      rw [result_error]
      exact .failed purpose error
  | ok e =>
      cases purpose with
      | envelope => exact .envelope e
      | value method nullable =>
          rw [result, Envelope.awaitedBody]
          cases success : e.isSuccess with
          | false =>
              refine .refused fun succeeds => ?_
              rw [Envelope.isSuccess_iff.mpr succeeds] at success
              cases success
          | true =>
              have succeeds := Envelope.isSuccess_iff.mp success
              cases body : e.body with
              | some payload => exact .body succeeds body
              | none =>
                  cases nullable with
                  | true => exact .noBody succeeds body
                  | false => exact .missingBody succeeds body

namespace Bridge

/-! ### Phases -/

/-- The call was enqueued, and no poll was ready yet. -/
def waiting (purpose : Purpose) (polling : Bool) (callback : CallbackFate) (cell : ResultCell) :
    Bridge where
  purpose := purpose
  await := ⟨.waiting, cell, true, true⟩
  polling := polling
  callback := callback
  enqueues := 1

/-- A poll was ready. -/
def resumed (purpose : Purpose) (present polling : Bool) (callback : CallbackFate)
    (cell : ResultCell) (outcome : Outcome) : Bridge where
  purpose := purpose
  await := ⟨.resumed, cell, false, false⟩
  present := present
  polling := polling
  callback := callback
  enqueues := 1
  results := [purpose.result outcome]

/-- The future was dropped before a poll was ready. -/
def abandoned (purpose : Purpose) (callback : CallbackFate) (cell : ResultCell) : Bridge where
  purpose := purpose
  await := ⟨.dropped, cell, false, false⟩
  present := false
  callback := callback
  enqueues := 1
  cancels := 1

/-- The future was dropped before the first poll. -/
def unwanted (purpose : Purpose) : Bridge where
  purpose := purpose
  await := ⟨.dropped, .empty, false, false⟩
  present := false

inductive Phase : Bridge → Prop where
  | unpolled {purpose : Purpose} : Phase { purpose }
  | waiting {purpose : Purpose} {polling : Bool} {callback : CallbackFate} {cell : ResultCell}
      (agrees : callback.Agrees cell) : Phase (waiting purpose polling callback cell)
  | resumed {purpose : Purpose} {present polling : Bool} {callback : CallbackFate}
      {cell : ResultCell} {outcome : Outcome} (agrees : callback.Agrees cell)
      (found : cell.outcome? = some outcome) (idle : polling = true → present = true) :
      Phase (resumed purpose present polling callback cell outcome)
  | abandoned {purpose : Purpose} {callback : CallbackFate} {cell : ResultCell} :
      Phase (abandoned purpose callback cell)
  | unwanted {purpose : Purpose} : Phase (unwanted purpose)

/-- A step from a phase and where it leads. -/
inductive Move : Bridge → BridgeStep → Bridge → Prop where
  | first {purpose : Purpose} : Move { purpose } .beginPoll (waiting purpose true .held .empty)
  | again {purpose : Purpose} {callback : CallbackFate} {cell : ResultCell}
      (agrees : callback.Agrees cell) :
      Move (waiting purpose false callback cell) .beginPoll (waiting purpose true callback cell)
  | after {purpose : Purpose} {callback : CallbackFate} {cell : ResultCell} {outcome : Outcome}
      (agrees : callback.Agrees cell) (found : cell.outcome? = some outcome) :
      Move (resumed purpose true false callback cell outcome) .beginPoll
        (resumed purpose true true callback cell outcome)
  | pending {purpose : Purpose} :
      Move (waiting purpose true .held .empty) .endPoll (waiting purpose false .held .empty)
  | ready {purpose : Purpose} {callback : CallbackFate} {cell : ResultCell} {outcome : Outcome}
      (agrees : callback.Agrees cell) (found : cell.outcome? = some outcome) :
      Move (waiting purpose true callback cell) .endPoll
        (resumed purpose true false callback cell outcome)
  | nothing {purpose : Purpose} {callback : CallbackFate} {cell : ResultCell} {outcome : Outcome}
      (agrees : callback.Agrees cell) (found : cell.outcome? = some outcome) :
      Move (resumed purpose true true callback cell outcome) .endPoll
        (resumed purpose true false callback cell outcome)
  | invoke {purpose : Purpose} {polling : Bool} {outcome : Outcome} :
      Move (waiting purpose polling .held .empty) (.invoke outcome)
        (waiting purpose polling (.called outcome) (.filled outcome))
  | invokeLate {purpose : Purpose} {cell : ResultCell} {outcome : Outcome} :
      Move (abandoned purpose .held cell) (.invoke outcome)
        (abandoned purpose (.called outcome) cell)
  | discard {purpose : Purpose} {polling : Bool} :
      Move (waiting purpose polling .held .empty) .discard
        (waiting purpose polling .dropped .abandoned)
  | discardLate {purpose : Purpose} {cell after : ResultCell} :
      Move (abandoned purpose .held cell) .discard (abandoned purpose .dropped after)
  | cancel {b : Bridge} (phase : Phase b) : Move b .cancel b
  | dropUnpolled {purpose : Purpose} : Move { purpose } .drop (unwanted purpose)
  | dropWaiting {purpose : Purpose} {callback : CallbackFate} {cell : ResultCell}
      (agrees : callback.Agrees cell) :
      Move (waiting purpose false callback cell) .drop (abandoned purpose callback cell)
  | dropResumed {purpose : Purpose} {callback : CallbackFate} {cell : ResultCell}
      {outcome : Outcome} (agrees : callback.Agrees cell) (found : cell.outcome? = some outcome) :
      Move (resumed purpose true false callback cell outcome) .drop
        (resumed purpose false false callback cell outcome)

/-- The next poll, or the one that has begun, is ready with the result. -/
def ReadyWith (b : Bridge) (result : Except Error Awaited) : Prop :=
  ∃ b', (if b.polling then [.endPoll] else [.beginPoll, .endPoll]).foldlM step? b = some b' ∧
    b'.results = [result]

section Steps

variable {b b' : Bridge} {label : BridgeStep} {purpose : Purpose} {callback : CallbackFate}
  {cell : ResultCell}

theorem move_of_unpolled (taken : step? { purpose } label = some b') :
    Move { purpose } label b' := by
  cases label with
  | beginPoll =>
      cases taken
      exact .first
  | cancel =>
      cases taken
      exact .cancel .unpolled
  | drop =>
      cases taken
      exact .dropUnpolled
  | _ => cases taken

theorem move_of_waiting {polling : Bool} (agrees : callback.Agrees cell)
    (taken : (waiting purpose polling callback cell).step? label = some b') :
    Move (waiting purpose polling callback cell) label b' := by
  cases label with
  | beginPoll =>
      cases polling with
      | true => cases taken
      | false =>
          cases taken
          exact .again agrees
  | endPoll =>
      cases polling with
      | false => cases taken
      | true =>
          cases agrees with
          | held =>
              cases taken
              exact .pending
          | called outcome =>
              cases taken
              exact .ready (.called outcome) rfl
          | dropped =>
              cases taken
              exact .ready .dropped rfl
  | invoke outcome =>
      cases agrees with
      | held =>
          cases taken
          exact .invoke
      | called _ => cases taken
      | dropped => cases taken
  | discard =>
      cases agrees with
      | held =>
          cases taken
          exact .discard
      | called _ => cases taken
      | dropped => cases taken
  | cancel =>
      cases taken
      exact .cancel (.waiting agrees)
  | drop =>
      cases polling with
      | true => cases taken
      | false =>
          cases taken
          exact .dropWaiting agrees

theorem move_of_resumed {present polling : Bool} {outcome : Outcome}
    (agrees : callback.Agrees cell) (found : cell.outcome? = some outcome)
    (idle : polling = true → present = true)
    (taken : (resumed purpose present polling callback cell outcome).step? label = some b') :
    Move (resumed purpose present polling callback cell outcome) label b' := by
  -- The callback is gone: an empty cell would not have made a poll ready.
  have gone : callback ≠ .held := by
    rintro rfl
    cases agrees
    cases found
  cases label with
  | beginPoll =>
      cases present with
      | false => cases taken
      | true =>
          cases polling with
          | true => cases taken
          | false =>
              cases taken
              exact .after agrees found
  | endPoll =>
      cases polling with
      | false => cases taken
      | true =>
          obtain rfl := idle rfl
          cases taken
          exact .nothing agrees found
  | invoke later =>
      cases agrees with
      | held => exact absurd rfl gone
      | called _ => cases taken
      | dropped => cases taken
  | discard =>
      cases agrees with
      | held => exact absurd rfl gone
      | called _ => cases taken
      | dropped => cases taken
  | cancel =>
      cases taken
      exact .cancel (.resumed agrees found idle)
  | drop =>
      cases present with
      | false => cases taken
      | true =>
          cases polling with
          | true => cases taken
          | false =>
              cases taken
              exact .dropResumed agrees found

theorem move_of_abandoned
    (taken : (abandoned purpose callback cell).step? label = some b') :
    Move (abandoned purpose callback cell) label b' := by
  cases label with
  | invoke outcome =>
      cases callback with
      | held =>
          cases cell <;>
          · cases taken
            exact .invokeLate
      | _ => cases taken
  | discard =>
      cases callback with
      | held =>
          cases cell <;>
          · cases taken
            exact .discardLate
      | _ => cases taken
  | cancel =>
      cases taken
      exact .cancel .abandoned
  | _ => cases taken

/-- From each phase only the moves are possible. -/
theorem move_of_step? (phase : Phase b) (taken : b.step? label = some b') : Move b label b' := by
  cases phase with
  | unpolled => exact move_of_unpolled taken
  | waiting agrees => exact move_of_waiting agrees taken
  | resumed agrees found idle => exact move_of_resumed agrees found idle taken
  | abandoned => exact move_of_abandoned taken
  | unwanted =>
      cases label with
      | cancel =>
          cases taken
          exact .cancel .unwanted
      | _ => cases taken

theorem Move.phase (move : Move b label b') : Phase b' := by
  cases move with
  | first => exact .waiting .held
  | again agrees => exact .waiting agrees
  | after agrees found => exact .resumed agrees found fun _ => rfl
  | pending => exact .waiting .held
  | ready agrees found => exact .resumed agrees found nofun
  | nothing agrees found => exact .resumed agrees found nofun
  | invoke => exact .waiting (.called _)
  | invokeLate => exact .abandoned
  | discard => exact .waiting .dropped
  | discardLate => exact .abandoned
  | cancel phase => exact phase
  | dropUnpolled => exact .unwanted
  | dropWaiting _ => exact .abandoned
  | dropResumed agrees found => exact .resumed agrees found nofun

/-- The call is enqueued by a first poll and by nothing else. -/
theorem Move.enqueues_iff (move : Move b label b') :
    b'.enqueues = 1 ↔ .beginPoll = label ∨ b.enqueues = 1 := by
  cases move <;> simp [waiting, resumed, abandoned, unwanted]

/-- Only the drop of a future that was polled and never ready cancels the call. -/
theorem Move.cancels_iff (move : Move b label b') :
    b'.cancels = 1 ↔ (label = .drop ∧ b.enqueues = 1 ∧ b.results = []) ∨ b.cancels = 1 := by
  cases move <;> simp [waiting, resumed, abandoned, unwanted]

theorem Move.called_iff (move : Move b label b') {outcome : Outcome} :
    b'.callback = .called outcome ↔ .invoke outcome = label ∨ b.callback = .called outcome := by
  cases move with
  | invoke => simp [waiting, eq_comm]
  | invokeLate => simp [abandoned, eq_comm]
  | _ => simp [waiting, resumed, abandoned, unwanted]

theorem Move.dropped_iff (move : Move b label b') :
    b'.callback = .dropped ↔ .discard = label ∨ b.callback = .dropped := by
  cases move <;> simp [waiting, resumed, abandoned, unwanted]

/-- When the future is gone nothing is enqueued any more and no poll is ready. -/
theorem Move.gone (move : Move b label b') (gone : b.present = false) :
    b'.present = false ∧ b'.enqueues = b.enqueues ∧ b'.cancels = b.cancels ∧
      b'.results = b.results := by
  cases move with
  | invokeLate => exact ⟨rfl, rfl, rfl, rfl⟩
  | discardLate => exact ⟨rfl, rfl, rfl, rfl⟩
  | cancel => exact ⟨gone, rfl, rfl, rfl⟩
  | _ => cases gone

theorem Move.purpose_eq (move : Move b label b') : b'.purpose = b.purpose := by
  cases move <;> rfl

theorem Phase.counts (phase : Phase b) :
    b.enqueues ≤ 1 ∧ b.cancels ≤ 1 ∧ b.results.length ≤ 1 := by
  cases phase <;> simp [Bridge.waiting, Bridge.resumed, Bridge.abandoned, Bridge.unwanted]

/-- Once the callback is gone, the next poll is ready with what it has left. -/
theorem Phase.ready (phase : Phase b) (unready : b.results = []) (present : b.present = true)
    {outcome : Outcome} (left : b.callback.outcome? = some outcome) :
    b.ReadyWith (b.purpose.result outcome) := by
  cases phase with
  | unpolled => cases left
  | @waiting purpose polling callback cell agrees =>
      cases agrees with
      | held => cases left
      | called outcome =>
          cases left
          cases polling <;> exact ⟨_, rfl, rfl⟩
      | dropped =>
          cases left
          cases polling <;> exact ⟨_, rfl, rfl⟩
  | resumed => cases unready
  | abandoned => cases present
  | unwanted => cases present

end Steps

/-! ### Runs -/

section Runs

variable {purpose : Purpose} {history : List (Bridge × BridgeStep)} {b : Bridge}

theorem phase_of_run (run : Run step? { purpose } history b) : Phase b :=
  run.keeps (fun taken phase => (move_of_step? phase taken).phase) .unpolled

theorem move_of_run {s t : Bridge} {label : BridgeStep} (run : Run step? { purpose } history s)
    (taken : s.step? label = some t) : Move s label t :=
  move_of_step? (phase_of_run run) taken

theorem purpose_of_run (run : Run step? { purpose } history b) : b.purpose = purpose := by
  induction run with
  | refl => rfl
  | step run taken ih => exact (move_of_run run taken).purpose_eq.trans ih

theorem not_happened {label : BridgeStep} : ¬ Happened ([] : List (Bridge × BridgeStep)) label := by
  rintro ⟨_, mem⟩
  cases mem

theorem enqueues_of_run (run : Run step? { purpose } history b) :
    b.enqueues = 1 ↔ Happened history .beginPoll := by
  induction run with
  | refl => exact iff_of_false nofun not_happened
  | step run taken ih => rw [(move_of_run run taken).enqueues_iff, happened_cons, ih]

theorem called_of_run (run : Run step? { purpose } history b) (outcome : Outcome) :
    b.callback = .called outcome ↔ Happened history (.invoke outcome) := by
  induction run with
  | refl => exact iff_of_false nofun not_happened
  | step run taken ih => rw [(move_of_run run taken).called_iff, happened_cons, ih]

theorem dropped_of_run (run : Run step? { purpose } history b) :
    b.callback = .dropped ↔ Happened history .discard := by
  induction run with
  | refl => exact iff_of_false nofun not_happened
  | step run taken ih => rw [(move_of_run run taken).dropped_iff, happened_cons, ih]

theorem cancels_of_run (run : Run step? { purpose } history b) :
    b.cancels = 1 ↔ ∃ s, (s, .drop) ∈ history ∧ s.enqueues = 1 ∧ s.results = [] := by
  induction run with
  | refl =>
      refine iff_of_false nofun ?_
      rintro ⟨_, mem, _⟩
      cases mem
  | @step history s _ label run taken ih =>
      rw [(move_of_run run taken).cancels_iff, ih]
      constructor
      · rintro (⟨rfl, polled, unready⟩ | ⟨before, mem, rest⟩)
        · exact ⟨s, List.mem_cons_self, polled, unready⟩
        · exact ⟨before, List.mem_cons_of_mem _ mem, rest⟩
      · rintro ⟨before, mem, polled, unready⟩
        rcases List.mem_cons.mp mem with same | mem
        · cases same
          exact Or.inl ⟨rfl, polled, unready⟩
        · exact Or.inr ⟨before, mem, polled, unready⟩

/-- What was enqueued, and what polls were ready with, when the future was dropped, is all. -/
theorem gone_of_run (run : Run step? { purpose } history b) {s : Bridge}
    (mem : (s, .drop) ∈ history) : b.enqueues = s.enqueues ∧ b.results = s.results := by
  obtain ⟨t, earlier, later, _, reached, taken, rest⟩ := run.cut mem
  have dropped : t.present = false ∧ t.enqueues = s.enqueues ∧ t.results = s.results := by
    cases move_of_run reached taken <;> exact ⟨rfl, rfl, rfl⟩
  have phase := (move_of_run reached taken).phase
  have kept : Phase b ∧ b.present = false ∧ b.enqueues = s.enqueues ∧ b.results = s.results := by
    refine rest.keeps (P := fun u => Phase u ∧ u.present = false ∧ u.enqueues = s.enqueues ∧
      u.results = s.results) ?_ ⟨phase, dropped⟩
    rintro u v label taken ⟨phase, gone, enqueues, results⟩
    have move := move_of_step? phase taken
    obtain ⟨gone, same_enqueues, _, same_results⟩ := move.gone gone
    exact ⟨move.phase, gone, same_enqueues.trans enqueues, same_results.trans results⟩
  exact ⟨kept.2.2.1, kept.2.2.2⟩

/-- A poll that was ready has found what the callback has left. -/
theorem result_of_run (run : Run step? { purpose } history b) {result : Except Error Awaited}
    (mem : result ∈ b.results) :
    (∃ outcome, Happened history (.invoke outcome) ∧ result = purpose.result outcome) ∨
      (Happened history .discard ∧ result = .error noOutcome) := by
  have same := purpose_of_run run
  have called := called_of_run run
  have dropped := dropped_of_run run
  cases phase_of_run run with
  | unpolled => cases mem
  | waiting => cases mem
  | abandoned => cases mem
  | unwanted => cases mem
  | resumed agrees found _ =>
      obtain rfl := same
      obtain rfl := List.mem_singleton.mp mem
      cases agrees with
      | held => cases found
      | called outcome =>
          cases found
          exact Or.inl ⟨_, (called _).mp rfl, rfl⟩
      | dropped =>
          cases found
          exact Or.inr ⟨dropped.mp rfl, rfl⟩

theorem readyWith_of_invoked (run : Run step? { purpose } history b) {outcome : Outcome}
    (invoked : Happened history (.invoke outcome)) (unready : b.results = [])
    (present : b.present = true) : b.ReadyWith (purpose.result outcome) := by
  rw [← purpose_of_run run]
  refine (phase_of_run run).ready unready present ?_
  rw [(called_of_run run outcome).mpr invoked]
  rfl

theorem readyWith_of_discarded (run : Run step? { purpose } history b)
    (discarded : Happened history .discard) (unready : b.results = [])
    (present : b.present = true) : b.ReadyWith (.error noOutcome) := by
  rw [← Purpose.result_error b.purpose]
  refine (phase_of_run run).ready unready present ?_
  rw [(dropped_of_run run).mpr discarded]
  rfl

end Runs

/-! ### What callers can rely on -/

/-- What holds after a run that began with a future that nobody has polled. -/
structure AwaitsOnce (purpose : Purpose) (history : List (Bridge × BridgeStep)) (b : Bridge) :
    Prop where
  /-- The first poll enqueues the call, and nothing else does. -/
  enqueued : b.enqueues ≤ 1 ∧ (b.enqueues = 1 ↔ Happened history .beginPoll)
  ready_once : b.results.length ≤ 1
  /-- A poll is ready with what the callback was called with, or with the failure that stands for a
  callback that was dropped. -/
  result : ∀ result ∈ b.results,
    (∃ outcome, Happened history (.invoke outcome) ∧ purpose.Gives outcome result) ∨
      (Happened history .discard ∧ result = .error
        (.transport (.connectionLost "call finished without reporting an outcome")))
  /-- The callback is called once, or dropped, but not both. -/
  one_fate : (∀ outcome other, Happened history (.invoke outcome) →
    Happened history (.invoke other) → outcome = other) ∧
    ∀ outcome, Happened history (.invoke outcome) → ¬ Happened history .discard
  /-- Once the callback was called, the next poll is ready with the outcome. -/
  resumes : b.results = [] → b.present = true → ∀ outcome, Happened history (.invoke outcome) →
    ∃ result, purpose.Gives outcome result ∧ b.ReadyWith result
  /-- Once the callback was dropped, the next poll is ready too. -/
  never_stuck : b.results = [] → b.present = true → Happened history .discard →
    b.ReadyWith (.error
      (.transport (.connectionLost "call finished without reporting an outcome")))
  /-- The bridge cancels the call if the future is dropped after its first poll and before a poll is
  ready, and never else. -/
  cancels : b.cancels ≤ 1 ∧
    (b.cancels = 1 ↔ ∃ s, (s, .drop) ∈ history ∧ s.enqueues = 1 ∧ s.results = [])
  /-- After the drop nothing is enqueued any more, and no outcome resumes anybody. -/
  gone : ∀ s, (s, .drop) ∈ history → b.enqueues = s.enqueues ∧ b.results = s.results

/-- One future, polled and dropped as one likes, and any call that calls the callback or drops it
whenever it likes: the call is enqueued once, the future resumes once, and only a future that is
abandoned cancels its call. -/
theorem awaits_once (purpose : Purpose) {history : List (Bridge × BridgeStep)} {b : Bridge}
    (run : Run step? { purpose } history b) : AwaitsOnce purpose history b where
  enqueued := ⟨(phase_of_run run).counts.1, enqueues_of_run run⟩
  ready_once := (phase_of_run run).counts.2.2
  result result mem := by
    rcases result_of_run run mem with ⟨outcome, happened, rfl⟩ | discarded
    · exact Or.inl ⟨outcome, happened, purpose.gives_result outcome⟩
    · exact Or.inr discarded
  one_fate := by
    have called := called_of_run run
    constructor
    · intro outcome other first second
      rw [← called] at first second
      rw [first] at second
      exact CallbackFate.called.inj second
    · intro outcome happened discarded
      rw [← called] at happened
      rw [← dropped_of_run run, happened] at discarded
      cases discarded
  resumes unready present outcome happened :=
    ⟨_, purpose.gives_result outcome, readyWith_of_invoked run happened unready present⟩
  never_stuck unready present discarded := readyWith_of_discarded run discarded unready present
  cancels := ⟨(phase_of_run run).counts.2.1, cancels_of_run run⟩
  gone s mem := gone_of_run run mem

/-- The future is polled and dropped; the cancellation lets the call report its outcome. -/
def abandonedAwait : List BridgeStep :=
  [.beginPoll, .cancel, .endPoll, .drop, .invoke (.error .canceled)]

/-- The future is polled, the call brings a body, and the future is polled again and dropped. -/
def fetchedAwait : List BridgeStep :=
  [.beginPoll, .endPoll, .invoke (.ok ⟨200, "OK", [], some (.text "there"), none⟩), .beginPoll,
    .endPoll, .drop]

/-- In the run of `abandonedAwait` the bridge cancels the call once, and nobody is resumed; in that
of `fetchedAwait` it does not, and the future gives the body. -/
theorem awaits_once_ready_or_abandoned :
    (∃ history b, Run step? { purpose := .value "fetch" false } history b ∧
      history.map (·.2) = fetchedAwait.reverse ∧ b.cancels = 0 ∧
      b.results = [.ok (.value (some (.text "there")))] ∧
      AwaitsOnce (.value "fetch" false) history b) ∧
    ∃ history b, Run step? { purpose := .envelope } history b ∧
      history.map (·.2) = abandonedAwait.reverse ∧ b.cancels = 1 ∧ b.results = [] ∧
      AwaitsOnce .envelope history b := by
  constructor
  · have ends : (fetchedAwait.foldlM step? { purpose := .value "fetch" false }).map
        (fun b => (b.cancels, b.results)) = some (0, [.ok (.value (some (.text "there")))]) := rfl
    obtain ⟨b, taken, same⟩ := Option.map_eq_some_iff.mp ends
    obtain ⟨cancels, results⟩ := Prod.mk.inj same
    obtain ⟨history, run, labels⟩ := Run.labels_of_foldlM taken
    exact ⟨history, b, run, labels, cancels, results, awaits_once _ run⟩
  · have ends : (abandonedAwait.foldlM step? { purpose := .envelope }).map
        (fun b => (b.cancels, b.results)) = some (1, []) := rfl
    obtain ⟨b, taken, same⟩ := Option.map_eq_some_iff.mp ends
    obtain ⟨cancels, results⟩ := Prod.mk.inj same
    obtain ⟨history, run, labels⟩ := Run.labels_of_foldlM taken
    exact ⟨history, b, run, labels, cancels, results, awaits_once _ run⟩

end Bridge

end RemoteCall
