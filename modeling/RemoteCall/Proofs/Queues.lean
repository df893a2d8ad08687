import RemoteCall.Executor.Drain
import RemoteCall.Executor.Feed
import RemoteCall.Proofs.Run

/-!
Queues begin their jobs in the order in which they were handed over.

`Drain.Sound` and `Feed.Sound` are what every step preserves (`Drain.Sound.step`,
`Feed.Sound.step`), whatever the jobs do: what was begun and what is pending make up what was handed
over, up to what a stop has lost. In a drain, besides, each job that was begun was taken by one run,
however the runs lie one inside the other, and what the runs count is what they have taken. In a
feed the events are those of the jobs that were begun, each ended before the next. What users of the
queues can rely on is `Drain.InOrder` and `Feed.InOrder`; it holds after every run
(`Drain.inOrder_of_run`, `Feed.inOrder_of_run`).
-/

namespace RemoteCall

variable {ι : Type}

/-- The jobs have the numbers from zero on. -/
def Numbered (jobs : List (Nat × ι)) : Prop := jobs.map (·.1) = List.range jobs.length

theorem Numbered.append {jobs : List (Nat × ι)} (numbered : Numbered jobs) (job : ι) :
    Numbered (jobs ++ [(jobs.length, job)]) := by
  rw [Numbered, List.map_append, numbered, List.length_append, List.length_singleton,
    List.range_succ]
  rfl

theorem Numbered.nodup {jobs : List (Nat × ι)} (numbered : Numbered jobs) :
    (jobs.map (·.1)).Nodup := by
  rw [numbered]
  exact List.nodup_range

namespace ManualQueue

variable {q : ManualQueue ι}

theorem take?_of_nil (empty : q.pending = []) : q.take? = none := by
  rw [take?, empty]

theorem take?_of_cons {job : ι} {rest : List ι} (next : q.pending = job :: rest) :
    q.take? = some (job, { q with pending := rest, runs := q.runs.modifyHead (· + 1) }) := by
  rw [take?, next]

theorem finish_of_cons {count : Nat} {outer : List Nat} (running : q.runs = count :: outer) :
    q.finish = (count, { q with ran := q.ran + count, runs := outer }) := by
  rw [finish, running]

theorem pending_finish (q : ManualQueue ι) : q.finish.2.pending = q.pending := by
  unfold finish
  split <;> rfl

end ManualQueue

namespace Drain

variable {d d' : Drain ι}

/-! ### Steps -/

theorem eq_of_start? (started : d.start? = some d') :
    d' = { d with queue := d.queue.start, active := {} :: d.active } := by
  unfold start? at started
  split at started
  · exact (Option.some.inj started).symm
  · cases started

theorem eq_of_leave? (left : d.leave? = some d') : ∃ taken outer,
    d.active = ⟨taken, true⟩ :: outer ∧ d' = { d with active := ⟨taken, false⟩ :: outer } := by
  unfold leave? at left
  split at left
  · next taken outer busy => exact ⟨taken, outer, busy, (Option.some.inj left).symm⟩
  · cases left

/-- The innermost run takes a job or returns. -/
inductive Advance (d : Drain ι) : Option ι → Drain ι → Prop where
  | take {taken : List Nat} {outer : List DrainRun} {entry : Nat × ι} {rest : List (Nat × ι)}
      (idle : d.active = ⟨taken, false⟩ :: outer) (next : d.queue.pending = entry :: rest) :
      Advance d (some entry.2) { d with
        queue := { d.queue with pending := rest, runs := d.queue.runs.modifyHead (· + 1) }
        active := ⟨taken ++ [entry.1], true⟩ :: outer
        begun := d.begun ++ [entry] }
  | finish {taken : List Nat} {outer : List DrainRun} (idle : d.active = ⟨taken, false⟩ :: outer)
      (empty : d.queue.pending = []) :
      Advance d none { d with
        queue := d.queue.finish.2
        active := outer
        returned := ⟨taken, d.queue.finish.1, d.queue.finish.2.pending⟩ :: d.returned }

theorem advance_of_advance? {job : Option ι} (taken : d.advance? = some (job, d')) :
    d.Advance job d' := by
  unfold advance? at taken
  split at taken
  · next idle =>
    cases pending : d.queue.pending with
    | nil =>
        simp only [ManualQueue.take?_of_nil pending] at taken
        cases taken
        exact .finish idle pending
    | cons entry rest =>
        simp only [ManualQueue.take?_of_cons pending] at taken
        cases taken
        exact .take idle pending
  · cases taken

/-- A run that is not busy goes on. -/
theorem advance?_of_idle {taken : List Nat} {outer : List DrainRun}
    (idle : d.active = ⟨taken, false⟩ :: outer) : ∃ job d', d.advance? = some (job, d') := by
  unfold advance?
  simp only [idle]
  cases d.queue.take? with
  | none => exact ⟨_, _, rfl⟩
  | some next => exact ⟨_, _, rfl⟩

/-! ### What every step preserves -/

/-- The jobs that the runs have taken, those of the returned runs first. -/
def shares (d : Drain ι) : List Nat :=
  d.returned.flatMap (·.taken) ++ d.active.flatMap (·.taken)

structure Sound (d : Drain ι) : Prop where
  /-- Nothing is lost, added, or overtaken. -/
  conserved : d.begun ++ d.queue.pending = d.submitted
  numbered : Numbered d.submitted
  /-- The counters of the queue are those of the runs in progress. -/
  counting : d.queue.runs = d.active.map (·.taken.length)
  ran : d.queue.ran = (d.returned.flatMap (·.taken)).length
  returned : ∀ r ∈ d.returned, r.count = r.taken.length ∧ r.left = []
  /-- Each job that was begun was taken by one run. -/
  shared : d.shares.Perm (d.begun.map (·.1))

open List in
/-- The job that a run takes comes behind what this run has taken before. -/
theorem perm_behind (returned taken outer : List Nat) (number : Nat) :
    returned ++ (taken ++ [number] ++ outer) ~ returned ++ (taken ++ outer) ++ [number] :=
  calc returned ++ (taken ++ [number] ++ outer)
    _ ~ returned ++ (taken ++ (outer ++ [number])) := by
        rw [List.append_assoc]
        exact (perm_append_comm.append_left taken).append_left returned
    _ = returned ++ (taken ++ outer) ++ [number] := by simp

theorem Sound.submit (sound : d.Sound) (job : ι) : (d.submit job).Sound where
  conserved := by
    change d.begun ++ (d.queue.pending ++ _) = d.submitted ++ _
    rw [← List.append_assoc, sound.conserved]
  numbered := sound.numbered.append job
  counting := sound.counting
  ran := sound.ran
  returned := sound.returned
  shared := sound.shared

theorem Sound.start (sound : d.Sound) (started : d.start? = some d') : d'.Sound := by
  obtain rfl := eq_of_start? started
  exact ⟨sound.conserved, sound.numbered, congrArg (0 :: ·) sound.counting, sound.ran,
    sound.returned, sound.shared⟩

theorem Sound.advance (sound : d.Sound) {job : Option ι} (step : d.Advance job d') : d'.Sound := by
  cases step with
  | @take taken outer entry rest idle next =>
      have shares := sound.shared
      rw [Drain.shares, idle] at shares
      refine ⟨?_, sound.numbered, ?_, sound.ran, sound.returned, ?_⟩
      · rw [← sound.conserved, next, List.append_assoc]
        rfl
      · rw [sound.counting, idle]
        simp
      · simp only [Drain.shares, List.flatMap_cons, List.map_append, List.map_singleton]
        exact (perm_behind _ _ _ _).trans (shares.append_right _)
  | @finish taken outer idle empty =>
      have counting := sound.counting
      rw [idle, List.map_cons] at counting
      have shares := sound.shared
      rw [Drain.shares, idle] at shares
      rw [ManualQueue.finish_of_cons counting]
      refine ⟨sound.conserved, sound.numbered, rfl, ?_, ?_, ?_⟩
      · change d.queue.ran + taken.length = _
        rw [sound.ran, List.flatMap_cons, List.length_append, Nat.add_comm]
      · intro r mem
        rcases List.mem_cons.mp mem with rfl | mem
        · exact ⟨rfl, empty⟩
        · exact sound.returned r mem
      · simp only [Drain.shares, List.flatMap_cons]
        refine List.Perm.trans ?_ shares
        rw [List.flatMap_cons, ← List.append_assoc]
        exact List.perm_append_comm.append_right _

theorem Sound.leave (sound : d.Sound) (left : d.leave? = some d') : d'.Sound := by
  obtain ⟨taken, outer, busy, rfl⟩ := eq_of_leave? left
  have counting := sound.counting
  have shared := sound.shared
  rw [busy] at counting
  rw [Drain.shares, busy] at shared
  exact ⟨sound.conserved, sound.numbered, counting, sound.ran, sound.returned, shared⟩

theorem Sound.step (sound : d.Sound) {label : DrainStep ι} (taken : d.step? label = some d') :
    d'.Sound := by
  cases label with
  | submit job =>
      cases taken
      exact sound.submit job
  | start => exact sound.start taken
  | advance =>
      obtain ⟨⟨job, after⟩, advanced, rfl⟩ := Option.map_eq_some_iff.mp taken
      exact sound.advance (advance_of_advance? advanced)
  | leave => exact sound.leave taken

theorem sound_init : Sound ({} : Drain ι) := ⟨rfl, rfl, rfl, rfl, nofun, .refl _⟩

/-! ### What users of the queue can rely on -/

structure InOrder (d : Drain ι) : Prop where
  /-- Every job that was handed over has its number. -/
  numbered : Numbered d.submitted
  /-- The jobs that were begun are those that were handed over first, in the same order. -/
  in_order : d.begun <+: d.submitted
  at_most_once : (d.begun.map (·.1)).Nodup
  /-- All other jobs are pending. -/
  kept : d.begun ++ d.queue.pending = d.submitted
  /-- A run that has returned has left nothing behind, and has returned how many jobs it has taken
  itself. -/
  returned : ∀ r ∈ d.returned, r.left = [] ∧ r.count = r.taken.length
  /-- Each job that was begun was taken by one run. -/
  taken_once : (d.returned.flatMap (·.taken) ++ d.active.flatMap (·.taken)).Perm (d.begun.map (·.1))
  /-- While no run is in progress, every job is pending or counted. -/
  accounted : d.active = [] → d.queue.ran + d.queue.pending.length = d.submitted.length
  /-- A run in progress is busy with a job or can go on. -/
  moves_on : d.active ≠ [] → d.leave?.isSome ∨ d.advance?.isSome

theorem Sound.begun_prefix (sound : d.Sound) : d.begun <+: d.submitted :=
  ⟨d.queue.pending, sound.conserved⟩

theorem Sound.inOrder (sound : d.Sound) : d.InOrder where
  numbered := sound.numbered
  in_order := sound.begun_prefix
  kept := sound.conserved
  at_most_once := (sound.begun_prefix.map _).sublist.nodup sound.numbered.nodup
  returned r mem := (sound.returned r mem).symm
  taken_once := sound.shared
  accounted none := by
    have lengths := sound.shared.length_eq
    rw [shares, none, List.flatMap_nil, List.append_nil, List.length_map] at lengths
    rw [sound.ran, lengths, ← List.length_append, sound.conserved]
  moves_on some := by
    cases active : d.active with
    | nil => exact absurd active some
    | cons run outer =>
        obtain ⟨taken, busy⟩ := run
        cases busy with
        | true =>
            rw [leave?, active]
            exact .inl rfl
        | false =>
            obtain ⟨job, after, advanced⟩ := advance?_of_idle active
            rw [advanced]
            exact .inr rfl

/-- However jobs are handed over and the queue is run. -/
theorem inOrder_of_run {history : List (Drain ι × DrainStep ι)} (run : Run step? {} history d) :
    d.InOrder :=
  (run.keeps (fun taken sound => sound.step taken) sound_init).inOrder

end Drain

namespace Feed

variable {f f' : Feed ι}

/-! ### Steps -/

/-- The task takes a job or begins to wait. -/
inductive Advance (f : Feed ι) : Option ι → Feed ι → Prop where
  | take {entry : Nat × ι} {rest : List (Nat × ι)} (idle : f.current = none)
      (next : f.queue.pending = entry :: rest) :
      Advance f (some entry.2) { f with
        queue := { f.queue with pending := rest }
        current := some entry.1
        begun := f.begun ++ [entry]
        events := f.events ++ [.began entry.1] }
  | wait (idle : f.current = none) (empty : f.queue.pending = []) :
      Advance f none { f with queue := f.queue.wait }

theorem advance_of_advance? {job : Option ι} (taken : f.advance? = some (job, f')) :
    f.Advance job f' := by
  unfold advance? at taken
  split at taken
  · cases taken
  · next enabled =>
    have idle : f.current = none := by
      cases current : f.current with
      | none => rfl
      | some number => simp [current] at enabled
    cases pending : f.queue.pending with
    | nil =>
        simp only [SerialQueue.pop?, pending] at taken
        cases taken
        exact .wait idle pending
    | cons entry rest =>
        simp only [SerialQueue.pop?, pending] at taken
        cases taken
        exact .take idle pending

/-- A job is accepted unless the queue has stopped. -/
theorem submit_of_running (running : f.queue.stopped = false) (job : ι) :
    f.submit job = (true, { f with
      queue := { pending := f.queue.pending ++ [(f.submitted.length, job)] }
      submitted := f.submitted ++ [(f.submitted.length, job)] }) := by
  unfold submit SerialQueue.push?
  rw [running]
  rfl

theorem submit_of_stopped (stopped : f.queue.stopped = true) (job : ι) :
    f.submit job =
      (false, { f with submitted := f.submitted ++ [(f.submitted.length, job)] }) := by
  unfold submit SerialQueue.push?
  rw [stopped]
  rfl

/-! ### What every step preserves -/

/-- The beginning and the end of each of the jobs. -/
def courses (jobs : List (Nat × ι)) : List FeedEvent :=
  jobs.flatMap fun entry => [.began entry.1, .ended entry.1]

theorem courses_append (jobs later : List (Nat × ι)) :
    courses (jobs ++ later) = courses jobs ++ courses later :=
  List.flatMap_append

structure Sound (f : Feed ι) : Prop where
  /-- Nothing is added or overtaken, and only a stop loses jobs. -/
  conserved : ∃ lost, f.begun ++ f.queue.pending ++ lost = f.submitted ∧
    (f.queue.stopped = false → lost = [])
  emptied : f.queue.stopped = true → f.queue.pending = []
  numbered : Numbered f.submitted
  /-- The jobs that were begun have ended, but the current one. -/
  courses : f.events ++ f.current.toList.map .ended = courses f.begun
  /-- The task does not wait while there are jobs. -/
  waits : f.queue.waiting = true → f.queue.pending = []

theorem Sound.submit (sound : f.Sound) (job : ι) : (f.submit job).2.Sound := by
  obtain ⟨lost, conserved, kept⟩ := sound.conserved
  have numbered := sound.numbered.append job
  cases stopped : f.queue.stopped with
  | false =>
      rw [submit_of_running stopped]
      refine ⟨⟨[], ?_, fun _ => rfl⟩, nofun, numbered, sound.courses, nofun⟩
      rw [← conserved, kept stopped]
      simp
  | true =>
      rw [submit_of_stopped stopped]
      refine ⟨⟨lost ++ [(f.submitted.length, job)], ?_, ?_⟩, sound.emptied, numbered,
        sound.courses, sound.waits⟩
      · rw [← List.append_assoc, conserved]
      · intro running
        exact absurd running (by simp [stopped])

theorem Sound.advance (sound : f.Sound) {job : Option ι} (step : f.Advance job f') : f'.Sound := by
  obtain ⟨lost, conserved, kept⟩ := sound.conserved
  have courses := sound.courses
  cases step with
  | @take entry rest idle next =>
      rw [idle, Option.toList_none, List.map_nil, List.append_nil] at courses
      refine ⟨⟨lost, ?_, kept⟩, ?_, sound.numbered, ?_, ?_⟩
      · rw [← conserved, next]
        simp
      · intro stopped
        have empty := sound.emptied stopped
        rw [next] at empty
        cases empty
      · rw [courses_append, ← courses, List.append_assoc]
        rfl
      · intro waiting
        have empty := sound.waits waiting
        rw [next] at empty
        cases empty
  | wait idle empty =>
      exact ⟨⟨lost, conserved, kept⟩, sound.emptied, sound.numbered, courses, fun _ => empty⟩

theorem Sound.leave (sound : f.Sound) (left : f.leave? = some f') : f'.Sound := by
  obtain ⟨number, current, rfl⟩ := Option.map_eq_some_iff.mp left
  have courses := sound.courses
  rw [current] at courses
  refine ⟨sound.conserved, sound.emptied, sound.numbered, ?_, sound.waits⟩
  rw [← courses]
  exact List.append_nil _

theorem Sound.stop (sound : f.Sound) : f.stop.2.Sound := by
  obtain ⟨lost, conserved, _⟩ := sound.conserved
  refine ⟨⟨f.queue.pending ++ lost, ?_, nofun⟩, fun _ => rfl, sound.numbered, sound.courses,
    fun _ => rfl⟩
  change f.begun ++ [] ++ (f.queue.pending ++ lost) = f.submitted
  rw [List.append_nil, ← List.append_assoc, conserved]

theorem Sound.step (sound : f.Sound) {label : FeedStep ι} (taken : f.step? label = some f') :
    f'.Sound := by
  cases label with
  | submit job =>
      cases taken
      exact sound.submit job
  | advance =>
      obtain ⟨⟨job, after⟩, advanced, rfl⟩ := Option.map_eq_some_iff.mp taken
      exact sound.advance (advance_of_advance? advanced)
  | leave => exact sound.leave taken
  | stop =>
      cases taken
      exact sound.stop

theorem sound_init : Sound ({} : Feed ι) :=
  ⟨⟨[], rfl, fun _ => rfl⟩, nofun, rfl, rfl, fun _ => rfl⟩

/-! ### What users of the queue can rely on -/

structure InOrder (f : Feed ι) : Prop where
  /-- Every job that was handed over has its number. -/
  numbered : Numbered f.submitted
  /-- The jobs that were begun are those that were handed over first, in the same order. -/
  in_order : f.begun <+: f.submitted
  at_most_once : (f.begun.map (·.1)).Nodup
  /-- Each job ends before the next is begun. -/
  one_by_one : f.events <+: courses f.submitted
  /-- What has happened is that the jobs were begun, and that all but the current one have ended. -/
  happened : f.events ++ f.current.toList.map .ended = courses f.begun
  /-- Until the task is stopped, all other jobs are pending. -/
  kept : f.queue.stopped = false → f.begun ++ f.queue.pending = f.submitted
  /-- A task that has jobs is busy with one or can go on. -/
  moves_on : f.queue.pending ≠ [] → f.leave?.isSome ∨ f.advance?.isSome

theorem Sound.begun_prefix (sound : f.Sound) : f.begun <+: f.submitted := by
  obtain ⟨lost, conserved, _⟩ := sound.conserved
  exact ⟨f.queue.pending ++ lost, by rw [← List.append_assoc, conserved]⟩

theorem Sound.moves_on (sound : f.Sound) (some : f.queue.pending ≠ []) :
    f.leave?.isSome ∨ f.advance?.isSome := by
  cases current : f.current with
  | some number =>
      rw [leave?, current]
      exact .inl rfl
  | none =>
      have running : f.queue.stopped = false :=
        Bool.eq_false_iff.mpr fun stopped => some (sound.emptied stopped)
      have awake : f.queue.waiting = false :=
        Bool.eq_false_iff.mpr fun waiting => some (sound.waits waiting)
      refine .inr ?_
      rw [advance?, current, running, awake]
      cases f.queue.pop? <;> rfl

theorem Sound.inOrder (sound : f.Sound) : f.InOrder where
  numbered := sound.numbered
  in_order := sound.begun_prefix
  at_most_once := (sound.begun_prefix.map _).sublist.nodup sound.numbered.nodup
  one_by_one := by
    obtain ⟨later, whole⟩ := sound.begun_prefix
    refine ⟨f.current.toList.map .ended ++ Feed.courses later, ?_⟩
    rw [← List.append_assoc, sound.courses, ← courses_append, whole]
  happened := sound.courses
  kept running := by
    obtain ⟨lost, conserved, kept⟩ := sound.conserved
    rw [kept running, List.append_nil] at conserved
    exact conserved
  moves_on := sound.moves_on

/-- However jobs are handed over, and whenever the task is stopped. -/
theorem inOrder_of_run {history : List (Feed ι × FeedStep ι)} (run : Run step? {} history f) :
    f.InOrder :=
  (run.keeps (fun taken sound => sound.step taken) sound_init).inOrder

end Feed

end RemoteCall
