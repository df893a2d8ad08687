import RemoteCall.Call.Depot
import RemoteCall.Proofs.DispatchOnce
import RemoteCall.Proofs.Queues

/-!
Wrappers that share a queue deliver in the order in which their delegates complete.

Every completion that a relay hears is a job that is handed over to the queue, and every callback
that is called is a job that is begun (`Depot.Logged`), so the order of the queues
(`Proofs/Queues.lean`) is the order of the callbacks. That the parcels in the queues can be opened
when their jobs are begun is `Exchange.Keeps`: each is where the exchange has put it. `Depot.Sound`
is what every step preserves, and `Depot.serves_in_order` reads off it what users can rely on.
-/

namespace RemoteCall

variable {κ : Type}

/-! ### Parcels -/

theorem Callback.Leads.last_eq {outer inner : CallRef} {number : Nat} {callback : Callback Nat}
    (leads : callback.Leads outer number inner) : callback.last = number := by
  induction callback generalizing inner with
  | listener other => exact leads.1
  | relay executor delegate next ih => exact ih leads.2

/-- The parcels that jobs deliver. -/
def parcels (jobs : List (Nat × Errand κ)) : List (Parcel Nat) := jobs.filterMap (·.2.parcel?)

theorem parcels_append (jobs later : List (Nat × Errand κ)) :
    parcels (jobs ++ later) = parcels jobs ++ parcels later :=
  List.filterMap_append

/-- A job of a user delivers nothing. -/
theorem parcels_user (jobs : List (Nat × Errand κ)) (number : Nat) (name : κ) :
    parcels (jobs ++ [(number, .user name)]) = parcels jobs :=
  (parcels_append _ _).trans (List.append_nil _)

theorem parcels_deliver (jobs : List (Nat × Errand κ)) (number : Nat) (parcel : Parcel Nat) :
    parcels (jobs ++ [(number, .deliver parcel)]) = parcels jobs ++ [parcel] :=
  parcels_append _ _

/-- The entries of a log that belong to wrappers with the executor. -/
def forExecutor (executor : Executor) (log : List (CallRef × Nat)) : List (CallRef × Nat) :=
  log.filter (·.1.executor? == some executor)

section Logs

variable {executor : Executor} {parcel : Parcel Nat}

theorem forExecutor_ticket (log : List (CallRef × Nat)) (mine : parcel.executor = executor) :
    forExecutor executor (log ++ [parcel.ticket]) =
      forExecutor executor log ++ [parcel.ticket] := by
  have mine : parcel.ticket.1.executor? = some executor := congrArg some mine
  simp [forExecutor, mine]

theorem forExecutor_ticket_other (log : List (CallRef × Nat)) (other : parcel.executor ≠ executor) :
    forExecutor executor (log ++ [parcel.ticket]) = forExecutor executor log := by
  have other : parcel.ticket.1.executor? ≠ some executor := fun same => other (Option.some.inj same)
  simp [forExecutor, other]

end Logs

namespace Exchange

variable {x x' : Exchange} {number : Nat}

/-! ### What the exchange keeps of the parcels in the queues -/

/-- The parcels are where the exchange has put them, each for another operation. -/
structure Keeps (x : Exchange) (held : List (Parcel Nat)) : Prop where
  handed : ∀ parcel ∈ held, ∃ call,
    x.ops[parcel.callback.last]? = some ⟨call, .handed parcel⟩
  distinct : (held.map (·.callback.last)).Nodup

namespace Keeps

variable {held : List (Parcel Nat)} {parcel : Parcel Nat}

theorem perm (keeps : x.Keeps held) {others : List (Parcel Nat)} (perm : held.Perm others) :
    x.Keeps others where
  handed parcel mem := keeps.handed parcel (perm.mem_iff.mpr mem)
  distinct := (perm.map _).nodup_iff.mp keeps.distinct

theorem cons (keeps : x.Keeps held) {call : CallRef}
    (there : x.ops[parcel.callback.last]? = some ⟨call, .handed parcel⟩)
    (free : parcel.callback.last ∉ held.map (·.callback.last)) : x.Keeps (parcel :: held) where
  handed other mem := by
    rcases List.mem_cons.mp mem with rfl | mem
    · exact ⟨call, there⟩
    · exact keeps.handed other mem
  distinct := List.nodup_cons.mpr ⟨free, keeps.distinct⟩

theorem of_cons (keeps : x.Keeps (parcel :: held)) :
    x.Keeps held ∧ parcel.callback.last ∉ held.map (·.callback.last) := by
  obtain ⟨free, distinct⟩ := List.nodup_cons.mp keeps.distinct
  exact ⟨⟨fun other mem => keeps.handed other (List.mem_cons_of_mem _ mem), distinct⟩, free⟩

/-- An operation is free of the held parcels if it has none or another one. -/
theorem free (keeps : x.Keeps held)
    (other : ∀ call parcel, x.ops[number]? = some ⟨call, .handed parcel⟩ → parcel ∉ held) :
    number ∉ held.map (·.callback.last) := by
  intro mem
  obtain ⟨parcel, inside, rfl⟩ := List.mem_map.mp mem
  obtain ⟨call, there⟩ := keeps.handed parcel inside
  exact other call parcel there inside

/-- Another operation may move on. -/
theorem moved (keeps : x.Keeps held) (free : number ∉ held.map (·.callback.last))
    {move : Enqueued → Enqueued} (ops_eq : x'.ops = x.ops.modify number move) : x'.Keeps held where
  handed parcel mem := by
    have different : number ≠ parcel.callback.last := by
      rintro rfl
      exact free (List.mem_map_of_mem mem)
    rw [ops_eq, List.getElem?_modify_ne _ _ different]
    exact keeps.handed parcel mem
  distinct := keeps.distinct

theorem enqueued (keeps : x.Keeps held) {op : Enqueued} (ops_eq : x'.ops = x.ops ++ [op]) :
    x'.Keeps held where
  handed parcel mem := by
    obtain ⟨call, there⟩ := keeps.handed parcel mem
    obtain ⟨bound, _⟩ := List.getElem?_eq_some_iff.mp there
    exact ⟨call, by rw [ops_eq, List.getElem?_append_left bound, there]⟩
  distinct := keeps.distinct

end Keeps

theorem Orderly.last_of_handed (orderly : Orderly x) {call : CallRef} {parcel : Parcel Nat}
    (there : x.ops[number]? = some ⟨call, .handed parcel⟩) : parcel.callback.last = number := by
  cases orderly.fits number _ there with
  | handed leads => exact leads.last_eq

/-- The wrappers whose listeners have heard, each with its operation, in order. -/
def told (x : Exchange) : List (CallRef × Nat) :=
  (x.heard.reverse.map fun entry => (entry.2.call, entry.1)).filter (·.1.executor?.isSome)

/-- The call of a callback goes on to a listener or to the next relay. -/
theorem told_react (x : Exchange) (within : Option Executor) (callback : Callback Nat)
    (call : CallRef) (outcome : Outcome) :
    (x.react number within (callback.hear call outcome)).told =
      match callback with
      | .listener listener =>
        x.told ++ [(call, listener)].filter (·.1.executor?.isSome)
      | .relay .. => x.told := by
  cases callback with
  | listener listener => simp [told, react, put, Callback.hear]
  | relay executor delegate next => rfl

theorem told_complete {outcome : Outcome}
    (taken : x.step? (.complete number outcome) = some x') : x'.told = x.told := by
  cases move_of_step? taken with
  | @complete _ call callback outcome there =>
      rw [told_react]
      cases callback with
      | listener listener => exact List.append_nil _
      | relay executor delegate next => rfl

/-- A parcel that is opened is heard of by the listener of its wrapper, if there is one. -/
theorem told_run {call : CallRef} {parcel : Parcel Nat}
    (there : x.ops[number]? = some ⟨call, .handed parcel⟩)
    (taken : x.step? (.run number) = some x') :
    x'.told = x.told ∨ x'.told = x.told ++ [parcel.ticket] := by
  cases move_of_step? taken with
  | run there' =>
      cases there.symm.trans there'
      rw [Parcel.unpack, told_react, Parcel.ticket]
      cases parcel.callback with
      | listener listener => exact .inr rfl
      | relay executor delegate next => exact .inl rfl

/-! ### Operations that move on -/

theorem ops_complete {outcome : Outcome} (taken : x.step? (.complete number outcome) = some x') :
    ∃ move, x'.ops = x.ops.modify number move := by
  cases move_of_step? taken with
  | complete outcome there => exact ⟨_, ops_react _ _ _ _⟩

theorem ops_run (taken : x.step? (.run number) = some x') :
    ∃ move, x'.ops = x.ops.modify number move := by
  cases move_of_step? taken with
  | run there => exact ⟨_, ops_react _ _ _ _⟩

theorem ops_drop (x : Exchange) (number : Nat) :
    ∃ move, (x.drop number).ops = x.ops.modify number move := by
  unfold drop
  cases taken : x.step? (.lose number) with
  | none => exact ⟨id, (List.modify_id _ _).symm⟩
  | some after =>
      cases move_of_step? taken with
      | lose there held => exact ⟨_, rfl⟩

theorem told_drop (x : Exchange) (number : Nat) : (x.drop number).told = x.told := by
  unfold drop
  cases taken : x.step? (.lose number) with
  | none => rfl
  | some after =>
      cases move_of_step? taken with
      | lose there held => rfl

theorem Orderly.drop (orderly : Orderly x) (number : Nat) : Orderly (x.drop number) := by
  unfold Exchange.drop
  cases taken : x.step? (.lose number) with
  | none => exact orderly
  | some after => exact orderly.step taken

/-- The parcels that are dropped were at the front; the others stay where they are. -/
theorem keeps_dropAll {lost held : List (Parcel Nat)} (orderly : Orderly x)
    (keeps : x.Keeps (lost ++ held)) :
    Orderly (x.dropAll lost) ∧ (x.dropAll lost).Keeps held ∧ (x.dropAll lost).told = x.told := by
  induction lost generalizing x with
  | nil => exact ⟨orderly, keeps, rfl⟩
  | cons parcel lost ih =>
      obtain ⟨keeps, free⟩ := keeps.of_cons
      obtain ⟨move, ops_eq⟩ := x.ops_drop parcel.callback.last
      obtain ⟨orderly, keeps, told⟩ := ih (orderly.drop _) (keeps.moved free ops_eq)
      exact ⟨orderly, keeps, told.trans (x.told_drop _)⟩

end Exchange

namespace Depot

variable {d d' : Depot κ}

/-! ### What every step preserves -/

/-- The parcels in the queues. -/
def held (d : Depot κ) : List (Parcel Nat) :=
  parcels d.manual.queue.pending ++ parcels d.serial.queue.pending

/-- The parcels that were handed over to a queue are the completions for its executor, and those
that were begun are the callbacks that were called. -/
structure Logged (executor : Executor) (completed fired : List (CallRef × Nat))
    (submitted begun : List (Parcel Nat)) : Prop where
  mine : ∀ parcel ∈ submitted, parcel.executor = executor
  completed : forExecutor executor completed = submitted.map Parcel.ticket
  fired : forExecutor executor fired = begun.map Parcel.ticket

namespace Logged

variable {executor : Executor} {completed fired : List (CallRef × Nat)}
  {submitted begun : List (Parcel Nat)} {parcel : Parcel Nat}

theorem submit (logged : Logged executor completed fired submitted begun)
    (mine : parcel.executor = executor) :
    Logged executor (completed ++ [parcel.ticket]) fired (submitted ++ [parcel]) begun where
  mine other mem := by
    rcases List.mem_append.mp mem with mem | mem
    · exact logged.mine other mem
    · obtain rfl := List.mem_singleton.mp mem
      exact mine
  completed := by
    rw [forExecutor_ticket _ mine, logged.completed, List.map_append]
    rfl
  fired := logged.fired

theorem submit_other (logged : Logged executor completed fired submitted begun)
    (other : parcel.executor ≠ executor) :
    Logged executor (completed ++ [parcel.ticket]) fired submitted begun :=
  ⟨logged.mine, (forExecutor_ticket_other _ other).trans logged.completed, logged.fired⟩

theorem fire (logged : Logged executor completed fired submitted begun)
    (mine : parcel.executor = executor) :
    Logged executor completed (fired ++ [parcel.ticket]) submitted (begun ++ [parcel]) := by
  refine ⟨logged.mine, logged.completed, ?_⟩
  rw [forExecutor_ticket _ mine, logged.fired, List.map_append]
  rfl

theorem fire_other (logged : Logged executor completed fired submitted begun)
    (other : parcel.executor ≠ executor) :
    Logged executor completed (fired ++ [parcel.ticket]) submitted begun :=
  ⟨logged.mine, logged.completed, (forExecutor_ticket_other _ other).trans logged.fired⟩

end Logged

structure Sound (d : Depot κ) : Prop where
  orderly : d.exchange.Orderly
  manual : d.manual.Sound
  serial : d.serial.Sound
  keeps : d.exchange.Keeps d.held
  manual_logged :
    Logged .manual d.completed d.fired (parcels d.manual.submitted) (parcels d.manual.begun)
  serial_logged :
    Logged .serial d.completed d.fired (parcels d.serial.submitted) (parcels d.serial.begun)
  /-- A listener hears when the callback of its wrapper is called. -/
  told : d.exchange.told.Sublist d.fired

theorem Sound.executor_of_manual (sound : d.Sound) {parcel : Parcel Nat}
    (mem : parcel ∈ parcels d.manual.queue.pending) : parcel.executor = .manual := by
  refine sound.manual_logged.mine parcel ?_
  rw [← sound.manual.conserved, parcels_append]
  exact List.mem_append_right _ mem

theorem Sound.executor_of_serial (sound : d.Sound) {parcel : Parcel Nat}
    (mem : parcel ∈ parcels d.serial.queue.pending) : parcel.executor = .serial := by
  obtain ⟨lost, conserved, _⟩ := sound.serial.conserved
  refine sound.serial_logged.mine parcel ?_
  rw [← conserved, parcels_append, parcels_append]
  exact List.mem_append_left _ (List.mem_append_right _ mem)

/-- The manual queue may change as long as its parcels are the same. -/
theorem Sound.set_manual (sound : d.Sound) {manual : Drain (Errand κ)} (still : manual.Sound)
    (pending : parcels manual.queue.pending = parcels d.manual.queue.pending)
    (submitted : parcels manual.submitted = parcels d.manual.submitted)
    (begun : parcels manual.begun = parcels d.manual.begun) : Sound { d with manual } where
  orderly := sound.orderly
  manual := still
  serial := sound.serial
  keeps := by
    change d.exchange.Keeps (parcels manual.queue.pending ++ _)
    rw [pending]
    exact sound.keeps
  manual_logged := by
    change Logged _ _ _ (parcels manual.submitted) (parcels manual.begun)
    rw [submitted, begun]
    exact sound.manual_logged
  serial_logged := sound.serial_logged
  told := sound.told

theorem Sound.set_serial (sound : d.Sound) {serial : Feed (Errand κ)} (still : serial.Sound)
    (pending : parcels serial.queue.pending = parcels d.serial.queue.pending)
    (submitted : parcels serial.submitted = parcels d.serial.submitted)
    (begun : parcels serial.begun = parcels d.serial.begun) : Sound { d with serial } where
  orderly := sound.orderly
  manual := sound.manual
  serial := still
  keeps := by
    change d.exchange.Keeps (_ ++ parcels serial.queue.pending)
    rw [pending]
    exact sound.keeps
  manual_logged := sound.manual_logged
  serial_logged := by
    change Logged _ _ _ (parcels serial.submitted) (parcels serial.begun)
    rw [submitted, begun]
    exact sound.serial_logged
  told := sound.told

/-- What the queues hold is for them. -/
theorem Sound.isQueue_of_held (sound : d.Sound) {parcel : Parcel Nat} (mem : parcel ∈ d.held) :
    parcel.executor.isQueue = true := by
  rcases List.mem_append.mp mem with mem | mem
  · rw [sound.executor_of_manual mem]
    rfl
  · rw [sound.executor_of_serial mem]
    rfl

/-! ### Completions -/

/-- A relay that has heard hands its parcel over. -/
theorem Sound.forward (sound : d.Sound) {number : Nat}
    (free : number ∉ d.held.map (·.callback.last)) : (d.forward number).Sound := by
  unfold Depot.forward
  split
  · next call parcel there =>
    obtain rfl := sound.orderly.last_of_handed there
    cases executor : parcel.executor with
    | manual =>
        simp only [give, executor]
        refine ⟨sound.orderly, sound.manual.submit _, sound.serial, ?_, ?_,
          sound.serial_logged.submit_other (by simp [executor]), sound.told⟩
        · refine (sound.keeps.cons there free).perm ?_
          change (parcel :: d.held).Perm (parcels (d.manual.queue.pending ++ _) ++ _)
          rw [parcels_deliver, List.append_assoc]
          exact List.perm_middle.symm
        · change Logged _ _ _ (parcels (d.manual.submitted ++ _)) _
          rw [parcels_deliver]
          exact sound.manual_logged.submit executor
    | serial =>
        have serial := sound.serial.submit (.deliver parcel)
        have manual_logged : Logged .manual (d.completed ++ [parcel.ticket]) d.fired _ _ :=
          sound.manual_logged.submit_other (by simp [executor])
        have serial_logged := sound.serial_logged.submit executor
        rw [← parcels_deliver _ d.serial.submitted.length] at serial_logged
        cases stopped : d.serial.queue.stopped with
        | false =>
            rw [Feed.submit_of_running stopped] at serial
            simp only [give, executor, Feed.submit_of_running stopped]
            refine ⟨sound.orderly, sound.manual, serial, ?_, manual_logged, serial_logged,
              sound.told⟩
            refine (sound.keeps.cons there free).perm ?_
            change (parcel :: d.held).Perm (_ ++ parcels (d.serial.queue.pending ++ _))
            rw [parcels_deliver, ← List.append_assoc]
            exact (List.perm_append_singleton _ _).symm
        | true =>
            obtain ⟨move, ops_eq⟩ := d.exchange.ops_drop parcel.callback.last
            rw [Feed.submit_of_stopped stopped] at serial
            simp only [give, executor, Feed.submit_of_stopped stopped]
            exact ⟨sound.orderly.drop _, sound.manual, serial, sound.keeps.moved free ops_eq,
              manual_logged, serial_logged, (Exchange.told_drop _ _).symm ▸ sound.told⟩
    | _ =>
        simp only [give, executor]
        exact ⟨sound.orderly, sound.manual, sound.serial, sound.keeps,
          sound.manual_logged.submit_other (by simp [executor]),
          sound.serial_logged.submit_other (by simp [executor]), sound.told⟩
  · exact sound

theorem Sound.complete (sound : d.Sound) {number : Nat} {outcome : Outcome} {x : Exchange}
    (taken : d.exchange.step? (.complete number outcome) = some x) :
    ({ d with exchange := x }.forward number).Sound := by
  obtain ⟨move, ops_eq⟩ := Exchange.ops_complete taken
  have free : number ∉ d.held.map (·.callback.last) := by
    refine sound.keeps.free fun call parcel there => ?_
    cases Exchange.move_of_step? taken with
    | complete outcome waiting => cases there.symm.trans waiting
  refine Sound.forward ?_ free
  exact ⟨sound.orderly.step taken, sound.manual, sound.serial, sound.keeps.moved free ops_eq,
    sound.manual_logged, sound.serial_logged, (Exchange.told_complete taken).symm ▸ sound.told⟩

/-! ### Openings -/

/-- A parcel is opened that no queue holds. -/
theorem sound_of_unpack? {parcel : Parcel Nat} {number : Nat} {call : CallRef}
    (taken : d.unpack? parcel number = some d')
    (there : d.exchange.ops[number]? = some ⟨call, .handed parcel⟩)
    (free : number ∉ d.held.map (·.callback.last)) (told : d.exchange.told.Sublist d.fired)
    (sound : Sound { d with fired := d.fired ++ [parcel.ticket] }) : d'.Sound := by
  obtain ⟨x, ran, rfl⟩ := Option.map_eq_some_iff.mp taken
  obtain ⟨move, ops_eq⟩ := Exchange.ops_run ran
  refine Sound.forward ?_ free
  refine ⟨sound.orderly.step ran, sound.manual, sound.serial, sound.keeps.moved free ops_eq,
    sound.manual_logged, sound.serial_logged, ?_⟩
  rcases Exchange.told_run there ran with same | more
  · exact same ▸ told.trans (List.sublist_append_left _ _)
  · exact more ▸ told.append_right _

/-- Whoever has the parcel of another executor may open it. -/
theorem Sound.unpack_other (sound : d.Sound) {parcel : Parcel Nat} {number : Nat} {call : CallRef}
    (there : d.exchange.ops[number]? = some ⟨call, .handed parcel⟩)
    (other : parcel.executor.isQueue = false) (taken : d.unpack? parcel number = some d') :
    d'.Sound := by
  have free : number ∉ d.held.map (·.callback.last) := by
    refine sound.keeps.free fun call parcel' there' mem => ?_
    cases there.symm.trans there'
    rw [sound.isQueue_of_held mem] at other
    cases other
  refine sound_of_unpack? taken there free sound.told ?_
  refine ⟨sound.orderly, sound.manual, sound.serial, sound.keeps,
    sound.manual_logged.fire_other ?_, sound.serial_logged.fire_other ?_,
    sound.told.trans (List.sublist_append_left _ _)⟩
  · intro executor
    rw [executor] at other
    cases other
  · intro executor
    rw [executor] at other
    cases other

theorem Sound.manual_advance (sound : d.Sound) {job : Option (Errand κ)}
    {after : Drain (Errand κ)} (advanced : d.manual.advance? = some (job, after))
    (begun : { d with manual := after }.begin? job = some d') : d'.Sound := by
  have step := Drain.advance_of_advance? advanced
  have manual := sound.manual.advance step
  have keeps := sound.keeps
  cases step with
  | @take taken outer entry rest idle next =>
      rw [held, next] at keeps
      obtain ⟨number, name | parcel⟩ := entry
      · cases begun
        exact sound.set_manual manual (congrArg parcels next).symm rfl (parcels_user _ _ _)
      · have executor : parcel.executor = .manual :=
          sound.executor_of_manual (next ▸ List.mem_cons_self)
        obtain ⟨call, there⟩ := keeps.handed parcel List.mem_cons_self
        obtain ⟨keeps, free⟩ := keeps.of_cons
        refine sound_of_unpack? begun there free sound.told ?_
        refine ⟨sound.orderly, manual, sound.serial, keeps, ?_,
          sound.serial_logged.fire_other (by simp [executor]),
          sound.told.trans (List.sublist_append_left _ _)⟩
        change Logged _ _ _ _ (parcels (d.manual.begun ++ _))
        rw [parcels_deliver]
        exact sound.manual_logged.fire executor
  | @finish taken outer idle empty =>
      cases begun
      exact sound.set_manual manual (congrArg parcels d.manual.queue.pending_finish) rfl rfl

theorem Sound.serial_advance (sound : d.Sound) {job : Option (Errand κ)}
    {after : Feed (Errand κ)} (advanced : d.serial.advance? = some (job, after))
    (begun : { d with serial := after }.begin? job = some d') : d'.Sound := by
  have step := Feed.advance_of_advance? advanced
  have serial := sound.serial.advance step
  have keeps := sound.keeps
  cases step with
  | @take entry rest idle next =>
      rw [held, next] at keeps
      obtain ⟨number, name | parcel⟩ := entry
      · cases begun
        exact sound.set_serial serial (congrArg parcels next).symm rfl (parcels_user _ _ _)
      · have executor : parcel.executor = .serial :=
          sound.executor_of_serial (next ▸ List.mem_cons_self)
        replace keeps := keeps.perm (List.perm_middle (a := parcel))
        obtain ⟨call, there⟩ := keeps.handed parcel List.mem_cons_self
        obtain ⟨keeps, free⟩ := keeps.of_cons
        refine sound_of_unpack? begun there free sound.told ?_
        refine ⟨sound.orderly, sound.manual, serial, keeps,
          sound.manual_logged.fire_other (by simp [executor]), ?_,
          sound.told.trans (List.sublist_append_left _ _)⟩
        change Logged _ _ _ _ (parcels (d.serial.begun ++ _))
        rw [parcels_deliver]
        exact sound.serial_logged.fire executor
  | wait idle empty =>
      cases begun
      exact sound.set_serial serial rfl rfl rfl

/-! ### Losses -/

/-- A callback that no queue has may be dropped. -/
theorem Sound.lose (sound : d.Sound) {number : Nat} (other : d.isQueued number = false) :
    Sound { d with exchange := d.exchange.drop number } := by
  have free : number ∉ d.held.map (·.callback.last) := by
    refine sound.keeps.free fun call parcel there mem => ?_
    rw [isQueued, there] at other
    exact absurd (sound.isQueue_of_held mem) (Bool.eq_false_iff.mp other)
  obtain ⟨move, ops_eq⟩ := d.exchange.ops_drop number
  exact ⟨sound.orderly.drop number, sound.manual, sound.serial, sound.keeps.moved free ops_eq,
    sound.manual_logged, sound.serial_logged, (Exchange.told_drop _ _).symm ▸ sound.told⟩

/-- A queue that is stopped loses its parcels. -/
theorem Sound.stop (sound : d.Sound) (taken : d.step? (.serial .stop) = some d') : d'.Sound := by
  have lost : d.serial.stop.1.filterMap Errand.parcel? = parcels d.serial.queue.pending :=
    List.filterMap_map
  have keeps := sound.keeps.perm List.perm_append_comm
  rw [← lost] at keeps
  obtain ⟨orderly, keeps, told⟩ := Exchange.keeps_dropAll sound.orderly keeps
  rw [← List.append_nil (parcels d.manual.queue.pending)] at keeps
  cases taken
  exact ⟨orderly, sound.manual, sound.serial.stop, keeps, sound.manual_logged,
    sound.serial_logged, told.symm ▸ sound.told⟩

/-! ### All steps -/

theorem Sound.carry (sound : d.Sound) {step : ExchangeStep} (taken : d.carry? step = some d') :
    d'.Sound := by
  cases step with
  | enqueue call =>
      cases taken
      exact ⟨sound.orderly.enqueue call, sound.manual, sound.serial, sound.keeps.enqueued rfl,
        sound.manual_logged, sound.serial_logged, sound.told⟩
  | mark call canceled =>
      cases taken
      exact ⟨⟨sound.orderly.fits, sound.orderly.fresh⟩, sound.manual, sound.serial,
        ⟨sound.keeps.handed, sound.keeps.distinct⟩, sound.manual_logged, sound.serial_logged,
        sound.told⟩
  | complete number outcome =>
      obtain ⟨x, completed, rfl⟩ := Option.map_eq_some_iff.mp taken
      exact sound.complete completed
  | run number =>
      unfold carry? at taken
      dsimp only at taken
      split at taken
      · next call parcel there =>
        cases other : parcel.executor.isQueue with
        | true => simp [other] at taken
        | false =>
            simp only [other, Bool.false_eq_true, if_false] at taken
            exact sound.unpack_other there other taken
      · cases taken
  | lose number =>
      unfold carry? at taken
      cases other : d.isQueued number with
      | true => simp [other] at taken
      | false =>
          simp only [other, Bool.false_eq_true, if_false] at taken
          obtain ⟨x, lost, rfl⟩ := Option.map_eq_some_iff.mp taken
          have dropped : d.exchange.drop number = x := by
            rw [Exchange.drop, lost]
            rfl
          exact dropped ▸ sound.lose other

theorem Sound.step (sound : d.Sound) {label : DepotStep κ} (taken : d.step? label = some d') :
    d'.Sound := by
  cases label with
  | exchange step => exact sound.carry taken
  | manual step =>
      cases step with
      | submit job =>
          cases taken
          exact sound.set_manual (sound.manual.submit _) (parcels_user _ _ _)
            (parcels_user _ _ _) rfl
      | start =>
          obtain ⟨manual, started, rfl⟩ := Option.map_eq_some_iff.mp taken
          obtain rfl := Drain.eq_of_start? started
          exact sound.set_manual (sound.manual.start started) rfl rfl rfl
      | advance =>
          obtain ⟨⟨job, after⟩, advanced, begun⟩ := Option.bind_eq_some_iff.mp taken
          exact sound.manual_advance advanced begun
      | leave =>
          obtain ⟨manual, left, rfl⟩ := Option.map_eq_some_iff.mp taken
          obtain ⟨jobs, outer, busy, rfl⟩ := Drain.eq_of_leave? left
          exact sound.set_manual (sound.manual.leave left) rfl rfl rfl
  | serial step =>
      cases step with
      | submit job =>
          cases taken
          have serial := sound.serial.submit (.user job)
          cases stopped : d.serial.queue.stopped with
          | false =>
              rw [Feed.submit_of_running stopped] at serial ⊢
              exact sound.set_serial serial (parcels_user _ _ _) (parcels_user _ _ _) rfl
          | true =>
              rw [Feed.submit_of_stopped stopped] at serial ⊢
              exact sound.set_serial serial rfl (parcels_user _ _ _) rfl
      | advance =>
          obtain ⟨⟨job, after⟩, advanced, begun⟩ := Option.bind_eq_some_iff.mp taken
          exact sound.serial_advance advanced begun
      | leave =>
          obtain ⟨serial, left, rfl⟩ := Option.map_eq_some_iff.mp taken
          obtain ⟨number, current, rfl⟩ := Option.map_eq_some_iff.mp left
          exact sound.set_serial (sound.serial.leave left) rfl rfl rfl
      | stop => exact sound.stop taken

/-! ### What users can rely on -/

structure ServesInOrder (d : Depot κ) : Prop where
  /-- The manual queue begins its jobs in order, and its runs count them. -/
  manual : d.manual.InOrder
  /-- The serial queue begins its jobs in order, one after the other. -/
  serial : d.serial.InOrder
  /-- The callbacks of any wrappers that share one of the queues are called in the order in which
  their delegates have completed. -/
  fires_in_order : ∀ (executor : Executor) (shared : CallRef → Bool), executor.isQueue = true →
    (∀ call, shared call = true → call.executor? = some executor) →
      d.fired.filter (shared ·.1) <+: d.completed.filter (shared ·.1)
  /-- So are the listeners among these callbacks. -/
  hears_in_order : ∀ (executor : Executor) (shared : CallRef → Bool), executor.isQueue = true →
    (∀ call, shared call = true → call.executor? = some executor) →
      (d.exchange.told.filter (shared ·.1)).Sublist (d.completed.filter (shared ·.1))
  /-- Whatever is first in a queue that can go on is begun. -/
  manual_goes_on : d.manual.advance?.isSome → (d.step? (.manual .advance)).isSome
  serial_goes_on : d.serial.advance?.isSome → (d.step? (.serial .advance)).isSome

theorem filter_forExecutor {executor : Executor} {shared : CallRef → Bool}
    (mine : ∀ call, shared call = true → call.executor? = some executor)
    (log : List (CallRef × Nat)) :
    log.filter (shared ·.1) = (forExecutor executor log).filter (shared ·.1) := by
  rw [forExecutor, List.filter_filter]
  refine List.filter_congr fun entry _ => ?_
  cases member : shared entry.1 with
  | false => rfl
  | true =>
      rw [mine _ member]
      exact (beq_self_eq_true _).symm

/-- A queue that begins its jobs in order calls the callbacks in order. -/
theorem Logged.fires_in_order {executor : Executor} {completed fired : List (CallRef × Nat)}
    {submitted begun : List (Nat × Errand κ)}
    (logged : Logged executor completed fired (parcels submitted) (parcels begun))
    (in_order : begun <+: submitted) :
    forExecutor executor fired <+: forExecutor executor completed := by
  rw [logged.fired, logged.completed]
  exact (in_order.filterMap _).map _

theorem Sound.fired_prefix (sound : d.Sound) {executor : Executor}
    (queue : executor.isQueue = true) :
    forExecutor executor d.fired <+: forExecutor executor d.completed := by
  cases executor with
  | manual => exact sound.manual_logged.fires_in_order sound.manual.begun_prefix
  | serial => exact sound.serial_logged.fires_in_order sound.serial.begun_prefix
  | _ => cases queue

/-- The parcel of an operation can be opened. -/
theorem isSome_unpack? {parcel other : Parcel Nat} {number : Nat} {call : CallRef}
    (there : d.exchange.ops[number]? = some ⟨call, .handed parcel⟩) :
    (d.unpack? other number).isSome = true := by
  simp [unpack?, Exchange.step?, there]

theorem Sound.manual_goes_on (sound : d.Sound) (some : d.manual.advance?.isSome = true) :
    (d.step? (.manual .advance)).isSome = true := by
  obtain ⟨⟨job, after⟩, advanced⟩ := Option.isSome_iff_exists.mp some
  simp only [step?, advanced, Option.bind_some]
  cases Drain.advance_of_advance? advanced with
  | finish idle empty => rfl
  | @take taken outer entry rest idle next =>
      obtain ⟨number, name | parcel⟩ := entry
      · rfl
      · obtain ⟨call, there⟩ := sound.keeps.handed parcel
          (List.mem_append_left _ (next ▸ List.mem_cons_self))
        exact isSome_unpack? there

theorem Sound.serial_goes_on (sound : d.Sound) (some : d.serial.advance?.isSome = true) :
    (d.step? (.serial .advance)).isSome = true := by
  obtain ⟨⟨job, after⟩, advanced⟩ := Option.isSome_iff_exists.mp some
  simp only [step?, advanced, Option.bind_some]
  cases Feed.advance_of_advance? advanced with
  | wait idle empty => rfl
  | @take entry rest idle next =>
      obtain ⟨number, name | parcel⟩ := entry
      · rfl
      · obtain ⟨call, there⟩ := sound.keeps.handed parcel
          (List.mem_append_right _ (next ▸ List.mem_cons_self))
        exact isSome_unpack? there

theorem sound_init (canceled : Nat → Bool) : Sound ({ exchange := { canceled } } : Depot κ) where
  orderly := ⟨nofun, fun _ _ => rfl⟩
  manual := Drain.sound_init
  serial := Feed.sound_init
  keeps := ⟨fun _ mem => absurd mem List.not_mem_nil, .nil⟩
  manual_logged := ⟨fun _ mem => absurd mem List.not_mem_nil, rfl, rfl⟩
  serial_logged := ⟨fun _ mem => absurd mem List.not_mem_nil, rfl, rfl⟩
  told := .slnil

/-- However callbacks are enqueued and completed, jobs are handed over, and the queues are run: the
queues begin their jobs in order, and so wrappers that share one of them call their callbacks in the
order of the completions. -/
theorem serves_in_order (canceled : Nat → Bool) {history : List (Depot κ × DepotStep κ)}
    {d : Depot κ} (run : Run step? { exchange := { canceled } } history d) : ServesInOrder d := by
  have sound : d.Sound := run.keeps (fun taken sound => sound.step taken) (sound_init canceled)
  refine ⟨sound.manual.inOrder, sound.serial.inOrder, ?_, ?_, sound.manual_goes_on,
    sound.serial_goes_on⟩
  · intro executor shared queue mine
    rw [filter_forExecutor mine d.fired, filter_forExecutor mine d.completed]
    exact (sound.fired_prefix queue).filter _
  · intro executor shared queue mine
    refine (sound.told.filter _).trans ?_
    rw [filter_forExecutor mine d.fired, filter_forExecutor mine d.completed]
    exact ((sound.fired_prefix queue).filter _).sublist

/-- Two calls of the manual queue and one of the serial queue are enqueued, and those of the manual
queue complete in the other order. A job of the user, handed over before, hands over a job and runs
the queue itself. -/
def nestedRuns : List (DepotStep Nat) :=
  [.exchange (.enqueue (.dispatching .manual (.made 0))),
    .exchange (.enqueue (.dispatching .manual (.made 1))),
    .exchange (.enqueue (.dispatching .serial (.made 2))),
    .manual (.submit 7), .exchange (.complete 1 (.error .alreadyExecuted)),
    .exchange (.complete 2 (.error .alreadyExecuted)),
    .exchange (.complete 0 (.error .alreadyExecuted)), .serial .advance,
    .manual .start, .manual .advance, .manual (.submit 8), .manual .start, .manual .advance,
    .manual .leave, .manual .advance, .serial .leave, .manual .leave, .manual .advance,
    .manual .leave, .manual .advance, .manual .leave, .manual .advance]

/-- The run of `nestedRuns`: the inner run takes three jobs and the outer one. -/
theorem serves_in_order_nested : ∃ history, ∃ d : Depot Nat,
    Run step? { exchange := { canceled := fun _ => false } } history d ∧
      d.fired = [(.dispatching .serial (.made 2), 2), (.dispatching .manual (.made 1), 1),
        (.dispatching .manual (.made 0), 0)] ∧
      d.manual.returned.map (·.count) = [1, 3] ∧ d.manual.queue.ran = 4 ∧ ServesInOrder d := by
  have ends : (nestedRuns.foldlM step? { exchange := { canceled := fun _ => false } }).map
      (fun d => (d.fired, d.manual.returned.map (·.count), d.manual.queue.ran)) =
        some ([(.dispatching .serial (.made 2), 2), (.dispatching .manual (.made 1), 1),
          (.dispatching .manual (.made 0), 0)], [1, 3], 4) := rfl
  obtain ⟨d, taken, logs⟩ := Option.map_eq_some_iff.mp ends
  obtain ⟨fired, counts, ran⟩ := Prod.mk.inj logs |>.imp_right Prod.mk.inj
  obtain ⟨history, run⟩ := Run.of_foldlM taken
  exact ⟨history, d, run, fired, counts, ran, serves_in_order _ run⟩

end Depot

end RemoteCall
