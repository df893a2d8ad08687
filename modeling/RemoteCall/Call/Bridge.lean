import RemoteCall.Call.Await

/-!
The future of an awaited call with everything around it that can move.

A `Bridge` is one await, whoever polls and drops its future, and the callback that the call was
given. The atomic steps are the operations of `Await`. What the call does is left open: it may call
the callback or drop it at any time from its start on, be it while the future is polled, later, or
when the future is gone. A poll is two steps, so that things can happen while it enqueues the call.
-/

namespace RemoteCall

/-- What has become of the callback that an await gives to its call. -/
inductive CallbackFate where
  /-- The call was not enqueued yet. -/
  | unmade
  | held
  | called (outcome : Outcome)
  | dropped

/-- One await and everything around it. -/
structure Bridge where
  purpose : Purpose
  await : Await := {}
  /-- The future was not dropped yet. -/
  present : Bool := true
  /-- A poll of the future has begun and not ended. -/
  polling : Bool := false
  callback : CallbackFate := .unmade
  /-- How often the bridge has enqueued the call. -/
  enqueues : Nat := 0
  /-- How often the bridge has canceled the call. -/
  cancels : Nat := 0
  /-- What polls have been ready with, the latest first. -/
  results : List (Except Error Awaited) := []

/-- What may happen next. -/
inductive BridgeStep where
  | beginPoll
  | endPoll
  /-- The call calls the callback. -/
  | invoke (outcome : Outcome)
  /-- The call drops the callback. -/
  | discard
  /-- Somebody else cancels the call. -/
  | cancel
  /-- The future is dropped. -/
  | drop

namespace Bridge

/-- The atomic steps; none where a step is not enabled. A future is not dropped while it is
polled. -/
def step? (b : Bridge) : BridgeStep → Option Bridge
  | .beginPoll =>
    if b.present && !b.polling then
      let (first, await) := b.await.start
      let polled := { b with await, polling := true }
      some (if first then { polled with callback := .held, enqueues := b.enqueues + 1 } else polled)
    else none
  | .endPoll =>
    if b.polling then
      let (outcome, await) := b.await.check
      some { b with
        await
        polling := false
        results := (outcome.map b.purpose.result).toList ++ b.results }
    else none
  | .invoke outcome =>
    match b.callback with
    | .held => some { b with await := b.await.fill outcome, callback := .called outcome }
    | _ => none
  | .discard =>
    match b.callback with
    | .held => some { b with await := b.await.lose, callback := .dropped }
    | _ => none
  | .cancel => some b
  | .drop =>
    if b.present && !b.polling then
      let (cancel, await) := b.await.drop
      some { b with await, present := false, cancels := b.cancels + cancel.toNat }
    else none

end Bridge

end RemoteCall
