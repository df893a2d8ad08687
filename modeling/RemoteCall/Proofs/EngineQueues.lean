import RemoteCall.Engine.Turn
import RemoteCall.Proofs.Operations
import RemoteCall.Proofs.Queues

/-!
The queues of an engine go the steps of a drain and of a feed.

An engine does not number the jobs of its queues and keeps no logs. `Engine.Drains` and
`Engine.Feeds` say that its queue is that of a drain or a feed, but for the numbers; what the engine
does with the queue is then what the steps do: it hands a job over, it goes on with a run
(`Drains.drain`) and returns from it (`Drains.runManual`), it works off the serial queue
(`Feeds.work`) and stops it.
-/

namespace RemoteCall

section Renaming

variable {ι α : Type}

/-- The queue with other jobs. -/
def ManualQueue.map (f : ι → α) (q : ManualQueue ι) : ManualQueue α where
  pending := q.pending.map f
  ran := q.ran
  runs := q.runs

def SerialQueue.map (f : ι → α) (q : SerialQueue ι) : SerialQueue α where
  pending := q.pending.map f
  waiting := q.waiting
  stopped := q.stopped

theorem ManualQueue.map_push (f : ι → α) (q : ManualQueue ι) (job : ι) :
    (q.push job).map f = (q.map f).push (f job) := by
  simp [push, map]

theorem ManualQueue.map_finish (f : ι → α) (q : ManualQueue ι) :
    (q.map f).finish = (q.finish.1, q.finish.2.map f) := by
  obtain ⟨pending, ran, runs⟩ := q
  cases runs <;> rfl

theorem SerialQueue.map_push? (f : ι → α) (q : SerialQueue ι) (job : ι) :
    (q.map f).push? (f job) = (q.push? job).map (·.map f) := by
  obtain ⟨pending, waiting, stopped⟩ := q
  cases stopped with
  | true => rfl
  | false => simp [push?, map]

end Renaming

namespace Engine

variable {σ κ : Type} {hooks : Hooks σ κ} {e : Engine σ κ}

/-! ### The manual queue -/

/-- The engine's manual queue is that of the drain. -/
def Drains (e : Engine σ κ) (d : Drain (Job κ)) : Prop := e.manual = d.queue.map (·.2)

namespace Drains

variable {d d' : Drain (Job κ)}

theorem submit (drains : e.Drains d) (job : Job κ) :
    ((Engine.submit .manual job).run e).1 = [] ∧
      ((Engine.submit .manual job).run e).2.Drains (d.submit job) := by
  refine ⟨rfl, ?_⟩
  change e.manual.push job = (d.queue.push _).map _
  rw [ManualQueue.map_push, ← drains]

theorem start (drains : e.Drains d) (started : d.start? = some d') :
    Drains { e with manual := e.manual.start } d' := by
  obtain rfl := Drain.eq_of_start? started
  change e.manual.start = d.queue.start.map _
  rw [drains]
  rfl

/-- A run goes on with the job that the drain begins, and stops when the drain returns. -/
theorem drain (drains : e.Drains d) {job : Option (Job κ)}
    (advanced : d.advance? = some (job, d')) :
    (expand hooks .drain).run e =
      match job with
      | some job => ([.run job, .drain], { e with manual := d'.queue.map (·.2) })
      | none => ([], e) := by
  rw [expand, run_get_bind, drains]
  cases Drain.advance_of_advance? advanced with
  | take idle next =>
      have taken := ManualQueue.take?_of_cons (q := d.queue.map (·.2)) (congrArg (·.map (·.2)) next)
      simp only [taken]
      rfl
  | finish idle empty =>
      have none := ManualQueue.take?_of_nil (q := d.queue.map (·.2)) (congrArg (·.map (·.2)) empty)
      simp only [none]
      rfl

/-- What a run of the queue answers is what the drain has returned, if the drain is where the engine
has come to when the run has nothing left to do. -/
theorem runManual {settle : List (Due σ κ) → EngineM σ κ Unit} {settled : Engine σ κ}
    (ends : (settle [.drain]).run { e with manual := e.manual.start } = ((), settled))
    (drains : settled.Drains d) (returns : d.advance? = some (none, d')) :
    ∃ r, d'.returned = r :: d.returned ∧
      (Engine.runManual settle).run e =
        (r.count, { settled with manual := d'.queue.map (·.2) }) := by
  cases Drain.advance_of_advance? returns with
  | finish idle empty =>
      refine ⟨_, rfl, ?_⟩
      have finish := d.queue.map_finish (·.2)
      rw [← drains] at finish
      change (match (settle [.drain]).run { e with manual := e.manual.start } with
        | ((), settled) =>
          (settled.manual.finish.1, { settled with manual := settled.manual.finish.2 })) = _
      rw [ends]
      simp only [finish]

end Drains

/-! ### The serial queue -/

/-- The task of the serial queue is woken. -/
theorem serial_wakeSerial {q : SerialQueue (Job κ)} (there : e.serial = some q) :
    (wakeSerial.run e).2.serial = some q.wake := by
  rw [wakeSerial, run_get_bind, there]
  obtain ⟨pending, waiting, stopped⟩ := q
  cases waiting with
  | false => exact there
  | true => rfl

/-- The engine's serial queue is that of the feed. -/
def Feeds (e : Engine σ κ) (f : Feed (Job κ)) : Prop := e.serial = some (f.queue.map (·.2))

namespace Feeds

variable {f f' : Feed (Job κ)}

theorem submit (feeds : e.Feeds f) (job : Job κ) :
    ((Engine.submit .serial job).run e).1 = (if (f.submit job).1 then [] else [.discard job]) ∧
      ((Engine.submit .serial job).run e).2.Feeds (f.submit job).2 := by
  have pushed := SerialQueue.map_push? (·.2) f.queue (f.submitted.length, job)
  rw [Engine.submit, run_get_bind, feeds, Option.bind_some, pushed, Feed.submit]
  cases f.queue.push? (f.submitted.length, job) with
  | some queue =>
      have woken : (wakeSerial.run { e with serial := some (queue.map (·.2)) }).2.serial =
          some (queue.map (·.2)).wake := serial_wakeSerial rfl
      exact ⟨rfl, woken⟩
  | none => exact ⟨rfl, feeds⟩

theorem work (feeds : e.Feeds f) {job : Option (Job κ)} (advanced : f.advance? = some (job, f')) :
    (expand hooks .work).run e =
      (match job with
        | some job => [.run job, .work]
        | none => [], { e with serial := some (f'.queue.map (·.2)) }) := by
  rw [expand, run_get_bind, feeds]
  cases Feed.advance_of_advance? advanced with
  | take idle next =>
      simp only [Option.bind_some, SerialQueue.pop?, SerialQueue.map, next, List.map_cons]
      rfl
  | wait idle empty =>
      simp only [Option.bind_some, SerialQueue.pop?, SerialQueue.map, SerialQueue.wait, empty,
        List.map_nil]
      rfl

theorem stop (feeds : e.Feeds f) :
    stopSerial.run e =
      (f.stop.1.map .discard, { e with serial := some (f.stop.2.queue.map (·.2)) }) := by
  rw [stopSerial, run_get_bind, feeds]
  rfl

end Feeds

end Engine

end RemoteCall
