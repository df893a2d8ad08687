import RemoteCall.Error

/-!
Registries: registered methods, and for each of them the plan once it is made.

A method lives in a slot. A slot keeps its plan for ever once it has one (`commit`). Looking a
method up finds its slot by id; whoever has found a slot keeps working with it even if the method is
removed in between, so removed slots stay in the list, marked as such. Ids count up and are not used
again. `resolve` is one caller's way through these steps; several callers at once are in
`RemoteCall.Registry.Race`.
-/

namespace RemoteCall

/-- The place of one registered method; `ρ` is the declaration, `δ` the plan. -/
structure Slot (ρ δ : Type) where
  id : MethodId
  entry : ρ
  committed : Option δ := none
  live : Bool := true

/-- Registered methods. -/
structure Registry (ρ δ : Type) where
  nextId : UInt64 := 1
  slots : List (Slot ρ δ) := []

namespace Registry

variable {ρ δ : Type}

/-- No methods. -/
def empty : Registry ρ δ := {}

/-- Takes the method out that has the given id. -/
def remove (r : Registry ρ δ) (id : MethodId) : Registry ρ δ :=
  { r with slots := r.slots.map fun s => if s.id = id then { s with live := false } else s }

/-- Adds a method and returns its id. -/
def register (r : Registry ρ δ) (entry : ρ) : MethodId × Registry ρ δ :=
  let id : MethodId := ⟨r.nextId⟩
  let r := r.remove id
  (id, { nextId := r.nextId + 1, slots := r.slots ++ [{ id, entry }] })

/-- The methods that are there. -/
def liveSlots (r : Registry ρ δ) : List (Slot ρ δ) := r.slots.filter (·.live)

/-- How many methods there are. -/
def size (r : Registry ρ δ) : Nat := r.liveSlots.length

/-- The index of the slot of a method. -/
def slotOf? (r : Registry ρ δ) (id : MethodId) : Option Nat :=
  r.slots.findIdx? fun s => s.live && s.id == id

/-- The slot of a method, or the error that there is none. -/
def lookup (r : Registry ρ δ) (id : MethodId) : Except Error Nat :=
  match r.slotOf? id with
  | some slot => .ok slot
  | none => .error (.unknownMethod id)

/-- The declaration of a method. -/
def entry (r : Registry ρ δ) (id : MethodId) : Except Error ρ :=
  match r.liveSlots.find? (·.id == id) with
  | some slot => .ok slot.entry
  | none => .error (.unknownMethod id)

/-- The plan that a slot holds. -/
def committedAt (r : Registry ρ δ) (slot : Nat) : Option δ := r.slots[slot]?.bind (·.committed)

/-- The plan of a method, if one was made. -/
def get? (r : Registry ρ δ) (id : MethodId) : Option δ := (r.slotOf? id).bind r.committedAt

/-- Puts a plan into a slot that has none. -/
def commit (r : Registry ρ δ) (slot : Nat) (plan : δ) : Registry ρ δ :=
  { r with
    slots := r.slots.modify slot fun s => { s with committed := s.committed.or (some plan) } }

/-- The plan of a method; it is made by `build` unless there is one. What fails is not kept. -/
def resolve {m : Type → Type} [Monad m] (r : Registry ρ δ) (id : MethodId)
    (build : MethodId → ρ → m (Except Error δ)) : m (Except Error δ × Registry ρ δ) := do
  match r.slotOf? id with
  | none => return (.error (.unknownMethod id), r)
  | some slot =>
    match r.slots[slot]? with
    | none => return (.error (.unknownMethod id), r)
    | some s =>
      match s.committed with
      | some plan => return (.ok plan, r)
      | none =>
        match ← build id s.entry with
        | .error error => return (.error error, r)
        | .ok plan => return (.ok plan, r.commit slot plan)

end Registry

end RemoteCall
