import RemoteCall.Registry.Basic

/-!
Several callers who resolve methods at the same time.

Each slot has a lock. A caller looks the slot up and checks whether there is a plan; if not it takes
the lock, checks again, builds, commits what it has built, and gives the lock back. These are the
atomic steps of `Race.step?`, which callers may take in any order; between them methods may be added
and removed, and readers may ask for plans without making any. A build may itself resolve further
methods: such a resolve is a further frame of the same caller. `Race.rounds` is one schedule among
others, in which the callers take turns.
-/

namespace RemoteCall

/-- How a build ends. -/
inductive BuildEnd (δ : Type) where
  | built (plan : δ)
  | failed (error : Error)
  | panicked

/-- Where a resolve stands. From `recheck` to `leave` it holds the lock of its slot. -/
inductive ResolveStage (δ : Type) where
  | lookup
  | check (slot : Nat)
  | acquire (slot : Nat)
  | recheck (slot : Nat)
  /-- The build is running. -/
  | building (slot : Nat)
  | commit (slot : Nat) (plan : δ)
  /-- The result is there, the lock is still held. -/
  | leave (slot : Nat) (result : BuildEnd δ)

/-- A resolve in progress. -/
structure ResolveFrame (δ : Type) where
  id : MethodId
  stage : ResolveStage δ

/-- A resolve that has ended. The slot is missing if there was none. -/
structure EndedResolve (δ : Type) where
  caller : Nat
  id : MethodId
  slot : Option Nat
  result : BuildEnd δ

/-- What a reader got who asked for the plan of a method. The slot is missing if there was none. -/
structure EndedLook (δ : Type) where
  id : MethodId
  slot : Option Nat
  plan : Option δ

/-- Callers at work on one registry. -/
structure Race (ρ δ : Type) where
  registry : Registry ρ δ
  /-- Who holds the lock of a slot. -/
  holder : Nat → Option Nat := fun _ => none
  /-- The resolves of a caller, the innermost first. -/
  frames : Nat → List (ResolveFrame δ) := fun _ => []
  /-- The resolves that have ended, the latest first. -/
  ended : List (EndedResolve δ) := []
  /-- The method that a reader asks for and the slot that it has found, until it has read it. -/
  looking : Nat → Option (MethodId × Nat) := fun _ => none
  /-- What the readers have got, the latest first. -/
  looked : List (EndedLook δ) := []

/-- What may happen next. -/
inductive RaceStep (ρ δ : Type) where
  /-- A caller begins to resolve a method. -/
  | start (caller : Nat) (id : MethodId)
  /-- A caller takes the next step of its innermost resolve. -/
  | advance (caller : Nat)
  /-- The build that a caller runs comes to its end. -/
  | finish (caller : Nat) (result : BuildEnd δ)
  | register (entry : ρ)
  | remove (id : MethodId)
  /-- A reader looks the slot of a method up. -/
  | look (reader : Nat) (id : MethodId)
  /-- A reader reads the slot that it has found. -/
  | read (reader : Nat)

namespace Race

variable {ρ δ : Type}

/-- A function with a new value at one place. -/
def update {α : Type} (f : Nat → α) (place : Nat) (value : α) : Nat → α :=
  fun n => if n = place then value else f n

/-- Moves the innermost resolve of a caller to another stage. -/
def goto (r : Race ρ δ) (caller : Nat) (stage : ResolveStage δ) : Race ρ δ :=
  match r.frames caller with
  | [] => r
  | frame :: rest => { r with frames := update r.frames caller ({ frame with stage } :: rest) }

/-- Ends the innermost resolve of a caller. -/
def finishFrame (r : Race ρ δ) (caller : Nat) (slot : Option Nat) (result : BuildEnd δ) :
    Race ρ δ :=
  match r.frames caller with
  | [] => r
  | frame :: rest => { r with
      frames := update r.frames caller rest
      ended := ⟨caller, frame.id, slot, result⟩ :: r.ended }

/-- The next step of a caller's innermost resolve; none if it has to wait or has none. -/
def advance? (r : Race ρ δ) (caller : Nat) : Option (Race ρ δ) :=
  match r.frames caller with
  | [] => none
  | frame :: _ =>
    match frame.stage with
    | .lookup =>
      match r.registry.slotOf? frame.id with
      | some slot => some (r.goto caller (.check slot))
      | none => some (r.finishFrame caller none (.failed (.unknownMethod frame.id)))
    | .check slot =>
      match r.registry.committedAt slot with
      | some plan => some (r.finishFrame caller (some slot) (.built plan))
      | none => some (r.goto caller (.acquire slot))
    | .acquire slot =>
      match r.holder slot with
      | some _ => none
      | none => some ({ r with holder := update r.holder slot (some caller) }.goto caller
          (.recheck slot))
    | .recheck slot =>
      match r.registry.committedAt slot with
      | some plan => some (r.goto caller (.leave slot (.built plan)))
      | none => some (r.goto caller (.building slot))
    | .building _ => none
    | .commit slot plan =>
      let registry := r.registry.commit slot plan
      let committed := (registry.committedAt slot).getD plan
      some ({ r with registry }.goto caller (.leave slot (.built committed)))
    | .leave slot result =>
      some ({ r with holder := update r.holder slot none }.finishFrame caller (some slot) result)

/-- The build of a caller's innermost resolve, if one is running. -/
def building? (r : Race ρ δ) (caller : Nat) : Option (MethodId × Nat) :=
  match r.frames caller with
  | ⟨id, .building slot⟩ :: _ => some (id, slot)
  | _ => none

/-- Whether a caller may begin a resolve: it is idle, or its innermost resolve is building. -/
def mayStart (r : Race ρ δ) (caller : Nat) : Bool :=
  (r.frames caller).isEmpty || (r.building? caller).isSome

/-- What becomes of a race by a step; none if the step can not be taken. -/
def step? (r : Race ρ δ) : RaceStep ρ δ → Option (Race ρ δ)
  | .start caller id =>
    if r.mayStart caller then
      some { r with frames := update r.frames caller (⟨id, .lookup⟩ :: r.frames caller) }
    else none
  | .advance caller => r.advance? caller
  | .finish caller result =>
    (r.building? caller).map fun (_, slot) =>
      match result with
      | .built plan => r.goto caller (.commit slot plan)
      | result => r.goto caller (.leave slot result)
  | .register entry => some { r with registry := (r.registry.register entry).2 }
  | .remove id => some { r with registry := r.registry.remove id }
  | .look reader id =>
    match r.looking reader with
    | some _ => none
    | none =>
      match r.registry.slotOf? id with
      | some slot => some { r with looking := update r.looking reader (some (id, slot)) }
      | none => some { r with looked := ⟨id, none, none⟩ :: r.looked }
  | .read reader =>
    (r.looking reader).map fun (id, slot) => { r with
      looking := update r.looking reader none
      looked := ⟨id, some slot, r.registry.committedAt slot⟩ :: r.looked }

/-! ### Taking turns -/

/-- A race in which each of the given number of callers begins to resolve the same method. -/
def ofCallers (registry : Registry ρ δ) (callers : Nat) (id : MethodId) : Race ρ δ where
  registry
  frames caller := if caller < callers then [⟨id, .lookup⟩] else []

variable {m : Type → Type} [Monad m]

/-- The end of a build that gives a plan or an error. -/
def endOf : Except Error δ → BuildEnd δ
  | .ok plan => .built plan
  | .error error => .failed error

/-- One turn of a caller: it builds if a build is due, else takes its next step if it can. -/
def turn (build : MethodId → ρ → m (Except Error δ)) (r : Race ρ δ) (caller : Nat) :
    m (Race ρ δ) := do
  match r.building? caller with
  | none => return (r.advance? caller).getD r
  | some (id, slot) =>
    match r.registry.slots[slot]? with
    | none => return r
    | some s => return (r.step? (.finish caller (endOf (← build id s.entry)))).getD r

/-- Turns of the callers below a number, one after the other. -/
def round (build : MethodId → ρ → m (Except Error δ)) (callers : Nat) (r : Race ρ δ) :
    m (Race ρ δ) :=
  (List.range callers).foldlM (turn build) r

/-- A number of rounds. -/
def rounds (build : MethodId → ρ → m (Except Error δ)) (callers : Nat) :
    Nat → Race ρ δ → m (Race ρ δ)
  | 0, r => return r
  | n + 1, r => do rounds build callers n (← round build callers r)

/-- As many rounds as the callers can need: each resolve has seven steps, and in each round the
caller that holds the lock takes one. -/
def finishAll (build : MethodId → ρ → m (Except Error δ)) (callers : Nat) (r : Race ρ δ) :
    m (Race ρ δ) :=
  rounds build callers (8 * (callers + 1)) r

/-- How the resolves have ended. -/
def results (r : Race ρ δ) : List (BuildEnd δ) := r.ended.map (·.result)

end Race

end RemoteCall
