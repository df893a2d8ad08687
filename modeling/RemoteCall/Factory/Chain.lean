import RemoteCall.Error

/-!
Factory chains: named plug-ins in a fixed order, of which the first that matches wins.

A search may start after a given place (`startAfter`); that is how a factory asks for what would
have been found without it. `Chain.findFrom` asks one factory after the other and stops at the first
match or fault; `Chain.resolveFrom` also turns a chain without a match into an error that lists who
was passed over and who was asked.
-/

namespace RemoteCall

/-- A plug-in under the name that messages give it. -/
structure Entry (φ : Type) where
  name : String
  item : φ

/-- Plug-ins in the order in which they are asked. -/
structure Chain (φ : Type) where
  entries : List (Entry φ)

/-- The first place that a search looks at which starts after `place`, in 64-bit arithmetic. -/
def startAfter : Option UInt64 → Nat
  | none => 0
  | some place => (place + 1).toNat

namespace Chain

variable {φ α : Type} {m : Type → Type} [Monad m]

/-- No plug-ins. -/
def empty : Chain φ := ⟨[]⟩

/-- One more plug-in at the end. -/
def push (c : Chain φ) (name : String) (item : φ) : Chain φ := ⟨c.entries ++ [⟨name, item⟩]⟩

/-- The plug-ins of one chain after those of another. -/
def append (c d : Chain φ) : Chain φ := ⟨c.entries ++ d.entries⟩

/-- How many plug-ins there are. -/
def length (c : Chain φ) : Nat := c.entries.length

/-- Whether there are none. -/
def isEmpty (c : Chain φ) : Bool := c.entries.isEmpty

/-- The names, in order. -/
def names (c : Chain φ) : List String := c.entries.map Entry.name

/-- The name at a place. -/
def name? (c : Chain φ) (place : Nat) : Option String := c.entries[place]?.map Entry.name

/-- The plug-in at a place. -/
def get? (c : Chain φ) (place : Nat) : Option φ := c.entries[place]?.map Entry.item

/-- Asks the entries one after the other, the first of them at `place`. -/
def scan (probe : Nat → φ → m (Except Fault (Option α))) :
    Nat → List (Entry φ) → m (Except Error (Option α))
  | _, [] => pure (.ok none)
  | place, e :: es => do
    match ← probe place e.item with
    | .ok (some found) => pure (.ok (some found))
    | .ok none => scan probe (place + 1) es
    | .error fault => pure (.error (.ofFactory e.name fault))

/-- The first match from the place `start` on, if any. A fault ends the search. -/
def findFrom (c : Chain φ) (start : Nat) (probe : Nat → φ → m (Except Fault (Option α))) :
    m (Except Error (Option α)) :=
  scan probe start (c.entries.drop start)

/-- The failure of a search from `start` on in which nobody matched. -/
def exhausted (c : Chain φ) (capability : Capability) (shape : Shape) (start : Nat) :
    ResolutionFailure :=
  ⟨capability, shape, c.names.take start, c.names.drop start⟩

/-- Like `findFrom`, but no match is an error. -/
def resolveFrom (c : Chain φ) (capability : Capability) (shape : Shape) (start : Nat)
    (probe : Nat → φ → m (Except Fault (Option α))) : m (Except Error α) := do
  match ← c.findFrom start probe with
  | .ok (some found) => pure (.ok found)
  | .ok none => pure (.error (.resolution none (c.exhausted capability shape start)))
  | .error error => pure (.error error)

/-- `findFrom`, started after a place. -/
def find (c : Chain φ) (skipPast : Option UInt64)
    (probe : Nat → φ → m (Except Fault (Option α))) : m (Except Error (Option α)) :=
  c.findFrom (startAfter skipPast) probe

/-- `resolveFrom`, started after a place. -/
def resolve (c : Chain φ) (capability : Capability) (shape : Shape) (skipPast : Option UInt64)
    (probe : Nat → φ → m (Except Fault (Option α))) : m (Except Error α) :=
  c.resolveFrom capability shape (startAfter skipPast) probe

end Chain

end RemoteCall
