import Mathlib.Data.List.Perm.Basic
import RemoteCall.Proofs.LineMoves
import RemoteCall.Proofs.Run

/-!
A wired call delivers once, and what it delivers is right.

Operations are started on one call in any order, while its task is polled or dropped, the transport
answers or not, and somebody cancels or shuts the runtime down. `delivers_once` says what holds
after every such run: each callback is in one place, only the first operation that asks for the run
gets it, and what it hears follows from what had happened before the step that ended it.
-/

namespace RemoteCall

variable {σ τ : Type}

/-- Whether an operation brings a callback. -/
def LineOp.hasCallback : LineOp → Bool
  | enqueue => true
  | execute _ => false

/-- What an operation hears that does not get the run. -/
def LineOp.refusal (op : LineOp) : Error :=
  if op.claims then .alreadyExecuted else blockedHere

/-- The operation that a step starts. -/
def LineStep.op? : LineStep σ → Option LineOp
  | enqueue => some .enqueue
  | execute context => some (.execute context)
  | _ => none

/-- Whether a step polls the run. -/
def LineStep.polls : LineStep σ → Bool
  | poll _ | wait _ => true
  | _ => false

/-- Whether a step may drop a task without polling it. -/
def LineStep.drops : LineStep σ → Bool
  | spawn _ | drop _ => true
  | _ => false

namespace Line

/-- The steps of a run with the states before them, the latest first. -/
abbrev History (σ τ : Type) := List (Line σ τ × LineStep σ)

/-- The callbacks that deliveries hold. -/
def carried (deliveries : List (Delivery Nat)) : List Nat :=
  deliveries.flatMap (·.callback.toList)

/-- The callbacks that have not heard anything yet. -/
def pending (l : Line σ τ) : List Nat := carried l.unspawned ++ carried l.tasks

/-- The operation that has the run: the first that has asked for it. -/
def winner? (l : Line σ τ) : Option Nat := l.ops.findIdx? LineOp.claims

/-- The operation has heard the outcome, by its callback or as its result. -/
def Gave (l : Line σ τ) (op : LineOp) (number : Nat) (outcome : Outcome) : Prop :=
  if op.hasCallback then (number, outcome) ∈ l.heard else (number, outcome) ∈ l.returned

/-- The operations that run, or have made the transport run. -/
def holders (l : Line σ τ) : List Nat := l.pending ++ l.blocked ++ l.asked

/-! ### Steps -/

section Steps

variable {l l' : Line σ τ} {label : LineStep σ}

@[simp] theorem carried_append (first second : List (Delivery Nat)) :
    carried (first ++ second) = carried first ++ carried second :=
  List.flatMap_append

@[simp] theorem carried_single (d : Delivery Nat) : carried [d] = d.callback.toList :=
  List.append_nil _

theorem count_pick {numbers : List Nat} {index picked : Nat}
    (there : numbers[index]? = some picked) (number : Nat) :
    numbers.count number = (picked :: numbers.eraseIdx index).count number := by
  obtain ⟨bound, rfl⟩ := List.getElem?_eq_some_iff.mp there
  exact ((List.getElem_cons_eraseIdx_perm bound).count_eq number).symm

theorem count_carried {deliveries : List (Delivery Nat)} {index : Nat} {d : Delivery Nat}
    (there : deliveries[index]? = some d) (number : Nat) :
    (carried deliveries).count number =
      d.callback.toList.count number + (carried (deliveries.eraseIdx index)).count number := by
  obtain ⟨bound, rfl⟩ := List.getElem?_eq_some_iff.mp there
  have moved := (List.getElem_cons_eraseIdx_perm bound).flatMap_right (·.callback.toList)
  rw [carried, ← moved.count_eq number, List.flatMap_cons, List.count_append, carried]

theorem Move.ops_eq (move : Move l label l') : l'.ops = l.ops ++ label.op?.toList := by
  cases move <;> simp [LineStep.op?, dropTask]

theorem Move.winner?_eq (move : Move l label l') :
    l'.winner? =
      l.winner?.or (if label.op?.any LineOp.claims then some l.ops.length else none) := by
  unfold winner?
  rw [move.ops_eq, List.findIdx?_append]
  congr 1
  cases label.op? with
  | none => rfl
  | some op => cases claims : op.claims <;> simp [claims]

theorem Move.winner?_mono (move : Move l label l') {number : Nat}
    (won : l.winner? = some number) : l'.winner? = some number := by
  rw [move.winner?_eq, won]
  rfl

/-- A step moves callbacks from one place to another; only an `enqueue` brings one. -/
theorem Move.callbacks (move : Move l label l') (number : Nat) :
    (l'.heard.map (·.1)).count number + l'.pending.count number =
      (l.heard.map (·.1)).count number + l.pending.count number +
        if label.op?.any LineOp.hasCallback ∧ l.ops.length = number then 1 else 0 := by
  cases move with
  | accept _ =>
      simp [pending, LineStep.op?, LineOp.hasCallback, List.count_cons]
      omega
  | refuse _ =>
      simp [pending, LineStep.op?, LineOp.hasCallback, List.count_cons]
      omega
  | spawn there _ =>
      have taken := count_carried there number
      simp [pending, LineStep.op?]
      omega
  | spawnClosed there _ =>
      have taken := count_carried there number
      simp [pending, LineStep.op?, Delivery.drop, Function.comp_def]
      omega
  | pollEnds there _ =>
      have taken := count_carried there number
      simp [pending, LineStep.op?, Function.comp_def]
      omega
  | panic there _ =>
      have taken := count_carried there number
      simp [pending, LineStep.op?, dropTask, Delivery.drop, Function.comp_def]
      omega
  | drop there _ =>
      have taken := count_carried there number
      simp [pending, LineStep.op?, dropTask, Delivery.drop, Function.comp_def]
      omega
  | executeBlocked => simp [pending, LineStep.op?, LineOp.hasCallback]
  | executeAccept _ _ => simp [pending, LineStep.op?, LineOp.hasCallback]
  | executeRefuse _ _ => simp [pending, LineStep.op?, LineOp.hasCallback]
  | _ => rfl

/-- The same for the operations that run on the spot. -/
theorem Move.on_spot (move : Move l label l') (number : Nat) :
    (l'.returned.map (·.1)).count number + l'.blocked.count number + l'.panicked.count number =
      (l.returned.map (·.1)).count number + l.blocked.count number + l.panicked.count number +
        if label.op?.any (!·.hasCallback) ∧ l.ops.length = number then 1 else 0 := by
  cases move with
  | executeBlocked =>
      simp [LineStep.op?, LineOp.hasCallback, List.count_cons]
      omega
  | executeAccept _ _ =>
      simp [LineStep.op?, LineOp.hasCallback, List.count_cons]
      omega
  | executeRefuse _ _ =>
      simp [LineStep.op?, LineOp.hasCallback, List.count_cons]
      omega
  | waitEnds there _ =>
      have taken := count_pick there number
      simp [LineStep.op?, List.count_cons] at taken ⊢
      omega
  | unwind there _ =>
      have taken := count_pick there number
      simp [LineStep.op?, List.count_cons] at taken ⊢
      omega
  | accept _ => simp [LineStep.op?, LineOp.hasCallback]
  | refuse _ => simp [LineStep.op?, LineOp.hasCallback]
  | _ => rfl

theorem mem_carried {deliveries : List (Delivery Nat)} {index number : Nat} {d : Delivery Nat}
    (there : deliveries[index]? = some d) (held : d.callback = some number) :
    number ∈ carried deliveries :=
  List.mem_flatMap.mpr ⟨d, List.mem_of_getElem? there, Option.mem_toList.mpr held⟩

theorem mem_carried_of_eraseIdx {deliveries : List (Delivery Nat)} {index number : Nat}
    (mem : number ∈ carried (deliveries.eraseIdx index)) : number ∈ carried deliveries := by
  obtain ⟨d, held, inside⟩ := List.mem_flatMap.mp mem
  exact List.mem_flatMap.mpr ⟨d, List.mem_of_mem_eraseIdx held, inside⟩

theorem mem_of_mem_askedWith {numbers : List Nat} {number : Nat}
    (mem : number ∈ l.askedWith numbers) : number ∈ numbers ∨ number ∈ l.asked := by
  unfold askedWith at mem
  split at mem
  · exact Or.inr mem
  · exact List.mem_append.mp mem

theorem mem_holders {number : Nat} :
    number ∈ l.holders ↔ number ∈ carried l.unspawned ∨ number ∈ carried l.tasks ∨
      number ∈ l.blocked ∨ number ∈ l.asked := by
  simp [holders, pending]

/-- Who is polled for has been a holder before. -/
theorem mem_holders_of_askedWith {numbers : List Nat} {number : Nat}
    (held : ∀ n ∈ numbers, n ∈ l.holders) (mem : number ∈ l.askedWith numbers) :
    number ∈ l.holders := by
  rcases mem_of_mem_askedWith mem with mem | mem
  · exact held number mem
  · exact mem_holders.mpr (Or.inr (Or.inr (Or.inr mem)))

theorem holder_of_task {index : Nat} {d : Delivery Nat} (there : l.tasks[index]? = some d) :
    ∀ n ∈ d.callback.toList, n ∈ l.holders := by
  intro n held
  exact mem_holders.mpr (Or.inr (Or.inl (mem_carried there (Option.mem_toList.mp held))))

theorem holder_of_blocked {index number : Nat} (there : l.blocked[index]? = some number) :
    ∀ n ∈ [number], n ∈ l.holders := by
  intro n mem
  obtain rfl := List.mem_singleton.mp mem
  exact mem_holders.mpr (Or.inr (Or.inr (Or.inl (List.mem_of_getElem? there))))

/-- A property of the holders is shown place by place. -/
theorem holders_cases {number : Nat} {P : Prop} (mem : number ∈ l.holders)
    (unspawned : number ∈ carried l.unspawned → P) (tasks : number ∈ carried l.tasks → P)
    (blocked : number ∈ l.blocked → P) (asked : number ∈ l.asked → P) : P := by
  rcases mem_holders.mp mem with mem | mem | mem | mem
  · exact unspawned mem
  · exact tasks mem
  · exact blocked mem
  · exact asked mem

/-- Only an operation that asks for the run, and finds it free, becomes a holder. -/
theorem Move.holders_new (move : Move l label l') {number : Nat} (mem : number ∈ l'.holders) :
    number ∈ l.holders ∨
      (l.call.executed = false ∧ label.op?.any LineOp.claims ∧ number = l.ops.length) := by
  have unspawned : number ∈ carried l.unspawned → number ∈ l.holders :=
    fun mem => mem_holders.mpr (Or.inl mem)
  have tasks : number ∈ carried l.tasks → number ∈ l.holders :=
    fun mem => mem_holders.mpr (Or.inr (Or.inl mem))
  have blocked : number ∈ l.blocked → number ∈ l.holders :=
    fun mem => mem_holders.mpr (Or.inr (Or.inr (Or.inl mem)))
  have asked : number ∈ l.asked → number ∈ l.holders :=
    fun mem => mem_holders.mpr (Or.inr (Or.inr (Or.inr mem)))
  cases move with
  | accept free =>
      refine holders_cases mem (fun mem => ?_) (fun mem => Or.inl (tasks mem))
        (fun mem => Or.inl (blocked mem)) (fun mem => Or.inl (asked mem))
      rw [carried_append, List.mem_append] at mem
      rcases mem with mem | mem
      · exact Or.inl (unspawned mem)
      · exact Or.inr ⟨free, rfl, List.mem_singleton.mp mem⟩
  | executeAccept mayBlock free =>
      refine holders_cases mem (fun mem => Or.inl (unspawned mem)) (fun mem => Or.inl (tasks mem))
        (fun mem => ?_) (fun mem => Or.inl (asked mem))
      rcases List.mem_append.mp mem with mem | mem
      · exact Or.inl (blocked mem)
      · exact Or.inr ⟨free, bne_iff_ne.mpr mayBlock, List.mem_singleton.mp mem⟩
  | spawn there _ =>
      refine Or.inl (holders_cases mem (fun mem => unspawned (mem_carried_of_eraseIdx mem))
        (fun mem => ?_) blocked asked)
      rw [carried_append, carried_single, List.mem_append, Option.mem_toList] at mem
      rcases mem with mem | held
      · exact tasks mem
      · exact unspawned (mem_carried there held)
  | spawnClosed there _ =>
      exact Or.inl (holders_cases mem (fun mem => unspawned (mem_carried_of_eraseIdx mem)) tasks
        blocked asked)
  | pollPending there _ =>
      exact Or.inl (holders_cases mem unspawned tasks blocked
        (mem_holders_of_askedWith (holder_of_task there)))
  | pollEnds there _ =>
      exact Or.inl (holders_cases mem unspawned (fun mem => tasks (mem_carried_of_eraseIdx mem))
        blocked (mem_holders_of_askedWith (holder_of_task there)))
  | panic there _ =>
      refine Or.inl (holders_cases mem unspawned (fun mem => tasks (mem_carried_of_eraseIdx mem))
        blocked (fun mem => ?_))
      rcases List.mem_append.mp mem with mem | mem
      · exact holder_of_task there number mem
      · exact asked mem
  | drop there _ =>
      exact Or.inl (holders_cases mem unspawned (fun mem => tasks (mem_carried_of_eraseIdx mem))
        blocked asked)
  | waitPending there _ =>
      exact Or.inl (holders_cases mem unspawned tasks blocked
        (mem_holders_of_askedWith (holder_of_blocked there)))
  | waitEnds there _ =>
      exact Or.inl (holders_cases mem unspawned tasks
        (fun mem => blocked (List.mem_of_mem_eraseIdx mem))
        (mem_holders_of_askedWith (holder_of_blocked there)))
  | unwind there _ =>
      refine Or.inl (holders_cases mem unspawned tasks
        (fun mem => blocked (List.mem_of_mem_eraseIdx mem)) (fun mem => ?_))
      rcases List.mem_cons.mp mem with rfl | mem
      · exact blocked (List.mem_of_getElem? there)
      · exact asked mem
  | _ => exact Or.inl mem

/-- The run is taken as soon as somebody has asked for it, and only who has it is a holder. -/
structure Owned (l : Line σ τ) : Prop where
  executed : l.call.executed = l.winner?.isSome
  holders : ∀ number ∈ l.holders, l.winner? = some number

theorem Move.executed_eq (move : Move l label l') :
    l'.call.executed = (l.call.executed || label.op?.any LineOp.claims) := by
  cases move with
  | executeAccept mayBlock _ => simp [LineStep.op?, LineOp.claims, mayBlock]
  | executeRefuse mayBlock _ => simp [LineStep.op?, LineOp.claims, mayBlock]
  | _ => simp [LineStep.op?, LineOp.claims, dropTask]

theorem Owned.move (owned : Owned l) (move : Move l label l') : Owned l' where
  executed := by
    rw [move.executed_eq, move.winner?_eq, owned.executed, Option.isSome_or]
    cases label.op?.any LineOp.claims <;> rfl
  holders number mem := by
    rcases move.holders_new mem with old | ⟨free, claims, rfl⟩
    · exact move.winner?_mono (owned.holders number old)
    · have nobody : l.winner? = none := by
        rw [← Option.not_isSome_iff_eq_none, ← owned.executed, free]
        exact Bool.false_ne_true
      rw [move.winner?_eq, nobody, if_pos claims]
      rfl

theorem winner?_lt {number : Nat} (won : l.winner? = some number) : number < l.ops.length :=
  (List.findIdx?_eq_some_iff_findIdx_eq.mp won).1

/-- Who does not have the run when starting will never have it. -/
theorem Move.not_winner (move : Move l label l') {number : Nat}
    (lost : l.winner? ≠ some number ∧ number < l.ops.length) :
    l'.winner? ≠ some number ∧ number < l'.ops.length := by
  obtain ⟨lost, bound⟩ := lost
  constructor
  · intro won
    rw [move.winner?_eq, Option.or_eq_some_iff] at won
    rcases won with won | ⟨_, won⟩
    · exact lost won
    · split at won
      · cases won
        omega
      · cases won
  · rw [move.ops_eq, List.length_append]
    omega

theorem Move.gave_mono (move : Move l label l') {op : LineOp} {number : Nat} {outcome : Outcome}
    (gave : l.Gave op number outcome) : l'.Gave op number outcome := by
  have heard : l.heard ⊆ l'.heard := by
    cases move <;> simp [dropTask]
  have returned : l.returned ⊆ l'.returned := by
    cases move <;> simp [dropTask]
  unfold Gave at gave ⊢
  split at gave
  · next callback =>
    rw [if_pos callback]
    exact heard gave
  · next none =>
    rw [if_neg none]
    exact returned gave

/-- An operation that starts without getting the run hears at once that it is refused. -/
theorem Move.refuses (move : Move l label l') {op : LineOp} (starts : label.op? = some op)
    (refused : op.claims = false ∨ l.call.executed = true) :
    l'.Gave op l.ops.length (.error op.refusal) := by
  cases move with
  | accept free =>
      cases starts
      simp [LineOp.claims, free] at refused
  | refuse _ =>
      cases starts
      simp [Gave, LineOp.refusal, LineOp.claims, LineOp.hasCallback]
  | executeBlocked =>
      cases starts
      simp [Gave, LineOp.refusal, LineOp.claims, LineOp.hasCallback]
  | executeAccept mayBlock free =>
      cases starts
      simp [LineOp.claims, free, mayBlock] at refused
  | executeRefuse mayBlock _ =>
      cases starts
      simp [Gave, LineOp.refusal, LineOp.claims, LineOp.hasCallback, mayBlock]
  | _ => cases starts

/-- How a step from `l` to `l'` ends the run with an outcome. -/
inductive Ending (l : Line σ τ) (label : LineStep σ) (outcome : Outcome) (l' : Line σ τ) :
    Prop where
  | polled (polls : label.polls)
      (polled : Polled l.call l.answer l.plugins (some outcome) l'.plugins)
      (unasked : l.call.canceled = true → l'.asked = l.asked)
  | closed (drops : label.drops) (closed : l.running = false)
      (lost : outcome = .error lostToShutdown)
  | panicked {index : Nat} (panics : label = .panic index) (active : l.call.canceled = false)
      (lost : outcome = .error lostToShutdown)

/-- The step starts the operation with this number, which does not get the run. -/
def Refuses (l : Line σ τ) (label : LineStep σ) (number : Nat) : Prop :=
  number = l.ops.length ∧
    ∃ op, label.op? = some op ∧ (op.claims = false ∨ l.call.executed = true)

theorem askedWith_of_canceled {numbers : List Nat} (canceled : l.call.canceled = true) :
    l.askedWith numbers = l.asked :=
  if_pos canceled

theorem outcome_of_told {γ : Type} {callbacks : List γ} {told outcome : Outcome} {callback : γ}
    (mem : (callback, outcome) ∈ callbacks.map (·, told)) : outcome = told := by
  obtain ⟨_, _, same⟩ := List.mem_map.mp mem
  exact (Prod.mk.inj same).2.symm

/-- A callback that hears an outcome is refused, or the step ends the run. -/
theorem Move.heard_new (move : Move l label l') {number : Nat} {outcome : Outcome}
    (mem : (number, outcome) ∈ l'.heard) :
    (number, outcome) ∈ l.heard ∨ l.Refuses label number ∨ l.Ending label outcome l' := by
  cases move with
  | refuse used =>
      rcases List.mem_cons.mp mem with same | mem
      · obtain ⟨rfl, _⟩ := Prod.mk.inj same
        exact Or.inr (Or.inl ⟨rfl, _, rfl, Or.inr used⟩)
      · exact Or.inl mem
  | spawnClosed _ closed =>
      rcases List.mem_append.mp mem with told | mem
      · exact Or.inr (Or.inr (.closed rfl closed (outcome_of_told told)))
      · exact Or.inl mem
  | pollEnds _ polled =>
      rcases List.mem_append.mp mem with told | mem
      · obtain rfl := outcome_of_told told
        exact Or.inr (Or.inr (.polled rfl polled askedWith_of_canceled))
      · exact Or.inl mem
  | panic _ active =>
      rcases List.mem_append.mp mem with told | mem
      · exact Or.inr (Or.inr (.panicked rfl active (outcome_of_told told)))
      · exact Or.inl mem
  | drop _ closed =>
      rcases List.mem_append.mp mem with told | mem
      · exact Or.inr (Or.inr (.closed rfl closed (outcome_of_told told)))
      · exact Or.inl mem
  | _ => exact Or.inl mem

/-- So is an operation on the spot that returns one. -/
theorem Move.returned_new (move : Move l label l') {number : Nat} {outcome : Outcome}
    (mem : (number, outcome) ∈ l'.returned) :
    (number, outcome) ∈ l.returned ∨ l.Refuses label number ∨ l.Ending label outcome l' := by
  cases move with
  | executeBlocked =>
      rcases List.mem_cons.mp mem with same | mem
      · obtain ⟨rfl, _⟩ := Prod.mk.inj same
        exact Or.inr (Or.inl ⟨rfl, _, rfl, Or.inl rfl⟩)
      · exact Or.inl mem
  | executeRefuse _ used =>
      rcases List.mem_cons.mp mem with same | mem
      · obtain ⟨rfl, _⟩ := Prod.mk.inj same
        exact Or.inr (Or.inl ⟨rfl, _, rfl, Or.inr used⟩)
      · exact Or.inl mem
  | waitEnds _ polled =>
      rcases List.mem_cons.mp mem with same | mem
      · obtain ⟨_, rfl⟩ := Prod.mk.inj same
        exact Or.inr (Or.inr (.polled rfl polled askedWith_of_canceled))
      · exact Or.inl mem
  | _ => exact Or.inl mem

theorem Move.gave_new (move : Move l label l') {op : LineOp} {number : Nat} {outcome : Outcome}
    (gave : l'.Gave op number outcome) :
    l.Gave op number outcome ∨ l.Refuses label number ∨ l.Ending label outcome l' := by
  unfold Gave at gave ⊢
  cases op with
  | enqueue => exact move.heard_new gave
  | execute context => exact move.returned_new gave

theorem Refuses.not_winner {number : Nat} (refuses : l.Refuses label number) (owned : Owned l)
    (move : Move l label l') : l'.winner? ≠ some number ∧ number < l'.ops.length := by
  obtain ⟨rfl, op, starts, refused⟩ := refuses
  constructor
  · intro won
    rw [move.winner?_eq, Option.or_eq_some_iff] at won
    rcases won with won | ⟨nobody, won⟩
    · exact absurd (winner?_lt won) (Nat.lt_irrefl _)
    · rw [owned.executed, nobody] at refused
      rcases refused with unclaimed | taken
      · rw [starts, Option.any_some, unclaimed] at won
        cases won
      · cases taken
  · rw [move.ops_eq, starts, List.length_append]
    exact Nat.lt_succ_self _

theorem Move.canceled_iff (move : Move l label l') :
    l'.call.canceled = true ↔ .cancel = label ∨ l.call.canceled = true := by
  cases move <;> simp [dropTask]

theorem Move.answer_iff (move : Move l label l') {reply : Reply} :
    l'.answer = some reply ↔ .answer reply = label ∨ l.answer = some reply := by
  cases move with
  | answer silent => simp [silent, eq_comm]
  | _ => simp [dropTask]

theorem Move.closed_iff (move : Move l label l') :
    l'.running = false ↔ .shutdown = label ∨ l.running = false := by
  cases move <;> simp [dropTask]

theorem Move.converter_eq (move : Move l label l') : l'.call.converter = l.call.converter := by
  cases move <;> rfl

/-- A poll ends the run if the call is canceled or there is an answer. -/
theorem poll_ends {index : Nat} {d : Delivery Nat} (there : l.tasks[index]? = some d)
    (ready : l.call.canceled = true ∨ l.answer ≠ none) :
    ∃ l', l.step? (.poll index) = some l' ∧ l'.tasks = l.tasks.eraseIdx index := by
  obtain ⟨outcome, plugins, looked, polled⟩ := l.look_eq d.callback.toList
  cases outcome with
  | none =>
      cases polled with
      | pending active silent =>
          rcases ready with canceled | answered
          · rw [active] at canceled
            cases canceled
          · exact absurd silent answered
  | some outcome =>
      simp only [step?, there, looked]
      exact ⟨_, rfl, rfl⟩

/-- A runtime that is shut down can drop each of its tasks. -/
theorem drop_ends {index : Nat} {d : Delivery Nat} (there : l.tasks[index]? = some d)
    (closed : l.running = false) :
    ∃ l', l.step? (.drop index) = some l' ∧ l'.tasks = l.tasks.eraseIdx index := by
  refine ⟨l.dropTask index d, ?_, rfl⟩
  simp [step?, there, closed]

end Steps

/-! ### Runs -/

section Runs

variable {plugins : σ} {call : TransportCall σ τ} {history : History σ τ} {l : Line σ τ}

theorem owned_of_run (run : Run step? (start plugins call) history l) : Owned l :=
  run.keeps (fun taken owned => owned.move (move_of_step? taken)) ⟨rfl, nofun⟩

/-- Operations are counted as they are started. -/
theorem tally (ops : List LineOp) (op? : Option LineOp) (p : LineOp → Bool) (number : Nat) :
    ((if ops[number]?.any p then 1 else 0) + if op?.any p ∧ ops.length = number then 1 else 0) =
      if (ops ++ op?.toList)[number]?.any p then 1 else 0 := by
  rcases Nat.lt_trichotomy number ops.length with before | same | after
  · have old : ¬ (op?.any p ∧ ops.length = number) := fun starts => by
      have := starts.2
      omega
    rw [List.getElem?_append_left before, if_neg old]
    rfl
  · subst same
    cases op? <;> simp
  · have outside : (ops ++ op?.toList)[number]? = none := by
      rw [List.getElem?_eq_none_iff, List.length_append]
      have short : op?.toList.length ≤ 1 := by cases op? <;> simp
      omega
    have not_yet : ¬ (op?.any p ∧ ops.length = number) := fun starts => by
      have := starts.2
      omega
    rw [outside, List.getElem?_eq_none (by omega), if_neg not_yet]
    rfl

theorem callbacks_of_run (run : Run step? (start plugins call) history l) (number : Nat) :
    (l.heard.map (·.1)).count number + l.pending.count number =
      if l.ops[number]?.any LineOp.hasCallback then 1 else 0 := by
  induction run with
  | refl => rfl
  | step _ taken ih =>
      have move := move_of_step? taken
      rw [move.callbacks, ih, move.ops_eq, tally]

theorem on_spot_of_run (run : Run step? (start plugins call) history l) (number : Nat) :
    (l.returned.map (·.1)).count number + l.blocked.count number + l.panicked.count number =
      if l.ops[number]?.any (!·.hasCallback) then 1 else 0 := by
  induction run with
  | refl => rfl
  | step _ taken ih =>
      have move := move_of_step? taken
      rw [move.on_spot, ih, move.ops_eq, tally]

/-- The call and its surroundings know what has happened. -/
structure Informed (call : TransportCall σ τ) (history : History σ τ) (l : Line σ τ) : Prop where
  converter : l.call.converter = call.converter
  canceled : l.call.canceled = true ↔ Happened history .cancel
  answer : ∀ reply, l.answer = some reply ↔ Happened history (.answer reply)
  closed : l.running = false ↔ Happened history .shutdown

theorem informed_of_run (run : Run step? (start plugins call) history l) :
    Informed call history l := by
  induction run with
  | refl =>
      have nothing : ∀ label, ¬ Happened ([] : History σ τ) label := fun _ ⟨_, mem⟩ => nomatch mem
      exact ⟨rfl, iff_of_false Bool.false_ne_true (nothing _),
        fun _ => iff_of_false nofun (nothing _), iff_of_false Bool.noConfusion (nothing _)⟩
  | step _ taken ih =>
      have move := move_of_step? taken
      constructor
      · rw [move.converter_eq, ih.converter]
      · rw [move.canceled_iff, happened_cons, ih.canceled]
      · intro reply
        rw [move.answer_iff, happened_cons, ih.answer]
      · rw [move.closed_iff, happened_cons, ih.closed]

/-- An operation that does not get the run is refused. -/
theorem refused_of_run (run : Run step? (start plugins call) history l) {number : Nat}
    {op : LineOp} (started : l.ops[number]? = some op) (lost : l.winner? ≠ some number) :
    l.Gave op number (.error op.refusal) := by
  induction run with
  | refl => cases started
  | @step _ s l label run taken ih =>
      have move := move_of_step? taken
      have owned := owned_of_run run
      by_cases before : number < s.ops.length
      · rw [move.ops_eq, List.getElem?_append_left before] at started
        exact move.gave_mono (ih started fun won => lost (move.winner?_mono won))
      · -- The operation is started by this very step.
        have starts : label.op? = some op ∧ number = s.ops.length := by
          rw [move.ops_eq, List.getElem?_append_right (by omega)] at started
          cases here : label.op? with
          | none => simp [here] at started
          | some first =>
              rw [here, Option.toList_some, List.getElem?_singleton] at started
              split at started
              · exact ⟨started, by omega⟩
              · cases started
        obtain ⟨starts, rfl⟩ := starts
        refine move.refuses starts ?_
        cases claims : op.claims with
        | false => exact Or.inl rfl
        | true =>
            right
            rw [owned.executed]
            by_contra nobody
            rw [Option.not_isSome_iff_eq_none] at nobody
            refine lost ?_
            rw [move.winner?_eq, nobody, starts, Option.any_some, if_pos claims]
            rfl

end Runs

/-! ### What callers can rely on -/

/-- Why the operation that has the run hears `outcome` at a step from `s` to `t`, given what has
happened earlier. -/
inductive Because (call : TransportCall σ τ) (earlier : History σ τ) (s : Line σ τ)
    (label : LineStep σ) (outcome : Outcome) (t : Line σ τ) : Prop where
  /-- A poll after a cancellation asks neither the transport nor the converter, whether or not there
  is an answer. -/
  | canceled (polls : label.polls) (canceled : Happened earlier .cancel)
      (unasked : t.asked = s.asked) (untouched : t.plugins = s.plugins)
      (same : outcome = .error .canceled)
  /-- Without a cancellation, an error of the transport is passed on. -/
  | failed {error : TransportError} (polls : label.polls) (active : ¬ Happened earlier .cancel)
      (answered : Happened earlier (.answer (.error error))) (untouched : t.plugins = s.plugins)
      (same : outcome = .error (.transport error))
  /-- Without a cancellation, a response is parsed. -/
  | parsed {raw : RawResponse} (polls : label.polls) (active : ¬ Happened earlier .cancel)
      (answered : Happened earlier (.answer (.ok raw)))
      (parse : parseResponse call.converter raw s.plugins = (outcome, t.plugins))
  /-- A runtime that is shut down drops the task. -/
  | closed (drops : label.drops) (closed : Happened earlier .shutdown)
      (same : outcome = .error lostToShutdown)
  /-- The poll of a task panics, which drops the task. -/
  | panicked {index : Nat} (panics : label = .panic index) (active : ¬ Happened earlier .cancel)
      (same : outcome = .error lostToShutdown)

theorem because_of_ending {call : TransportCall σ τ} {earlier : History σ τ} {s t : Line σ τ}
    {label : LineStep σ} {outcome : Outcome} (informed : Informed call earlier s)
    (ending : s.Ending label outcome t) : Because call earlier s label outcome t := by
  have active_iff : s.call.canceled = false ↔ ¬ Happened earlier .cancel := by
    rw [← informed.canceled, Bool.not_eq_true]
  cases ending with
  | polled polls polled unasked =>
      generalize wrapped : some outcome = result, after : t.plugins = plugins at polled
      cases polled with
      | canceled stopped =>
          exact .canceled polls (informed.canceled.mp stopped) (unasked stopped) after
            (Option.some.inj wrapped)
      | failed active there =>
          exact .failed polls (active_iff.mp active) ((informed.answer _).mp there) after
            (Option.some.inj wrapped)
      | parsed active there parse =>
          obtain rfl := Option.some.inj wrapped
          obtain rfl := after
          rw [informed.converter] at parse
          exact .parsed polls (active_iff.mp active) ((informed.answer _).mp there) parse
      | pending => cases wrapped
  | closed drops closed lost => exact .closed drops (informed.closed.mp closed) lost
  | panicked panics active lost => exact .panicked panics (active_iff.mp active) lost

theorem because_of_run {plugins : σ} {call : TransportCall σ τ} {history : History σ τ}
    {l : Line σ τ} (run : Run step? (start plugins call) history l) {op : LineOp} {number : Nat}
    {outcome : Outcome} (won : l.winner? = some number) (gave : l.Gave op number outcome) :
    ∃ s label t earlier later, history = later ++ (s, label) :: earlier ∧
      s.step? label = some t ∧ ¬ s.Gave op number outcome ∧ t.Gave op number outcome ∧
      Because call earlier s label outcome t := by
  have silent : ¬ (start plugins call).Gave op number outcome := by
    cases op <;> exact List.not_mem_nil
  obtain ⟨s, label, t, earlier, later, split, reached, taken, rest, not_yet, then_gave⟩ :=
    run.became (P := fun l => l.Gave op number outcome) silent gave
  refine ⟨s, label, t, earlier, later, split, taken, not_yet, then_gave, ?_⟩
  have move := move_of_step? taken
  rcases move.gave_new then_gave with old | refuses | ending
  · exact absurd old not_yet
  · -- The operation that starts here is refused, so it is not the one that has the run.
    have lost := refuses.not_winner (owned_of_run reached) move
    have still_lost := rest.keeps (P := fun l => l.winner? ≠ some number ∧ number < l.ops.length)
      (fun taken => (move_of_step? taken).not_winner) lost
    exact absurd won still_lost.1
  · exact because_of_ending (informed_of_run reached) ending

/-- What holds after a run that began with a fresh copy of `call`. -/
structure DeliversOnce (call : TransportCall σ τ) (history : History σ τ) (l : Line σ τ) :
    Prop where
  /-- The callback of an `enqueue` waits in one task, or has heard one outcome. -/
  callbacks : ∀ number, (l.heard.map (·.1)).count number + l.pending.count number =
    if l.ops[number]?.any LineOp.hasCallback then 1 else 0
  /-- An operation on the spot still waits, or has returned once, or has panicked. -/
  on_spot : ∀ number, (l.returned.map (·.1)).count number + l.blocked.count number +
    l.panicked.count number = if l.ops[number]?.any (!·.hasCallback) then 1 else 0
  /-- The run is used up as soon as an operation has asked for it, but not by one that must not
  block. -/
  used : l.call.executed = l.winner?.isSome
  /-- Only the first that has asked for the run has a task, waits for the end, or makes the
  transport run. -/
  one_run : ∀ number ∈ l.holders, l.winner? = some number
  /-- All others hear that they are refused. -/
  refused : ∀ number op, l.ops[number]? = some op → l.winner? ≠ some number →
    l.Gave op number (.error op.refusal)
  /-- What the first hears follows from what has happened before the step that ended the run. -/
  because : ∀ number op outcome, l.winner? = some number → l.Gave op number outcome →
    ∃ s label t earlier later, history = later ++ (s, label) :: earlier ∧
      s.step? label = some t ∧ ¬ s.Gave op number outcome ∧ t.Gave op number outcome ∧
      Because call earlier s label outcome t
  /-- After a cancellation, or with an answer there, the next poll of the task is its last. -/
  poll_ends : ∀ (index : Nat) d, l.tasks[index]? = some d →
    (Happened history .cancel ∨ ∃ reply, Happened history (.answer reply)) →
    ∃ l', l.step? (.poll index) = some l' ∧ l'.tasks = l.tasks.eraseIdx index
  /-- After a shutdown every task can be dropped. -/
  drop_ends : ∀ (index : Nat) d, l.tasks[index]? = some d → Happened history .shutdown →
    ∃ l', l.step? (.drop index) = some l' ∧ l'.tasks = l.tasks.eraseIdx index

/-- Any number of operations on one wired call, in any order with cancellations, polls, the answer
of the transport and the shutdown of the runtime: every callback hears one outcome in the end, and
the right one. -/
theorem delivers_once (plugins : σ) (call : TransportCall σ τ) {history : History σ τ}
    {l : Line σ τ} (run : Run step? (start plugins call) history l) :
    DeliversOnce call history l where
  callbacks := callbacks_of_run run
  on_spot := on_spot_of_run run
  used := (owned_of_run run).executed
  one_run := (owned_of_run run).holders
  refused _ _ started lost := refused_of_run run started lost
  because _ _ _ won gave := because_of_run run won gave
  poll_ends index d there ready := by
    have informed := informed_of_run run
    refine poll_ends there ?_
    rcases ready with canceled | ⟨reply, answered⟩
    · exact Or.inl (informed.canceled.mpr canceled)
    · right
      rw [(informed.answer reply).mpr answered]
      exact Option.some_ne_none reply
  drop_ends index d there down := drop_ends there ((informed_of_run run).closed.mpr down)

/-- A call whose converter gives the body back as it is. -/
def plainCall : TransportCall Unit Unit where
  request := { verb := .get, url := "/" }
  converter := fun body => pure (.ok (.body body))
  transport := ()

/-- The call is enqueued and the answer is there when somebody cancels; then the task is polled, and
the call is enqueued and run once more. -/
def canceledWithAnswer : List (LineStep Unit) :=
  [.execute .currentThread, .enqueue, .spawn 0, .poll 0, .answer (.error .timeout), .cancel,
    .poll 0, .enqueue, .execute .plain]

/-- The run of `canceledWithAnswer`: the first callback hears of the cancellation. -/
theorem delivers_once_canceled : ∃ history l,
    Run step? (start () plainCall) history l ∧
      l.heard = [(2, .error .alreadyExecuted), (1, .error .canceled)] ∧
      l.returned = [(3, .error .alreadyExecuted), (0, .error blockedHere)] ∧ l.asked = [1] ∧
      DeliversOnce plainCall history l := by
  have ends : (canceledWithAnswer.foldlM step? (start () plainCall)).map
      (fun l => (l.heard, l.returned, l.asked)) =
      some ([(2, .error .alreadyExecuted), (1, .error .canceled)],
        [(3, .error .alreadyExecuted), (0, .error blockedHere)], [1]) := rfl
  obtain ⟨l, taken, same⟩ := Option.map_eq_some_iff.mp ends
  obtain ⟨heard, returned, asked⟩ : _ ∧ _ ∧ _ := by simpa using same
  obtain ⟨history, run⟩ := Run.of_foldlM taken
  exact ⟨history, l, run, heard, returned, asked, delivers_once () plainCall run⟩

end Line

end RemoteCall
