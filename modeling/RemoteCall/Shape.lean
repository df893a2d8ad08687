/-!
Shapes: the types that a method declares, as the factories of a client see them.

A shape is compared as a whole (`DecidableEq`), by its raw name (`Shape.is`), or searched for a part
that is still unresolved (`Shape.hasUnresolved`). `Shape.text` is the notation `raw<a, b>` used in
every message.
-/

namespace RemoteCall

/-- A declared type. -/
inductive Shape where
  /-- The empty payload; a method may await it but not return it. -/
  | unit
  /-- A concrete type, possibly with parameters. -/
  | type (raw : String) (args : List Shape)
  /-- A type variable or wildcard that nothing has been put in for. -/
  | unresolved (name : String)

namespace Shape

/-! ### Equality -/

mutual

/-- Whether two shapes are the same, part by part. -/
def same : Shape → Shape → Bool
  | unit, unit => true
  | type r as, type s bs => r == s && sameAll as bs
  | unresolved m, unresolved n => m == n
  | _, _ => false

/-- Whether two parameter lists are the same, member by member. -/
def sameAll : List Shape → List Shape → Bool
  | [], [] => true
  | a :: as, b :: bs => same a b && sameAll as bs
  | _, _ => false

end

mutual

theorem eq_of_same : ∀ {a b : Shape}, same a b = true → a = b
  | unit, unit, _ => rfl
  | type r as, type s bs, h => by
    simp only [same, Bool.and_eq_true, beq_iff_eq] at h
    rw [h.1, eq_of_sameAll h.2]
  | unresolved m, unresolved n, h => by
    simp only [same, beq_iff_eq] at h
    rw [h]
  | unit, type _ _, h => by simp [same] at h
  | unit, unresolved _, h => by simp [same] at h
  | type _ _, unit, h => by simp [same] at h
  | type _ _, unresolved _, h => by simp [same] at h
  | unresolved _, unit, h => by simp [same] at h
  | unresolved _, type _ _, h => by simp [same] at h

theorem eq_of_sameAll : ∀ {as bs : List Shape}, sameAll as bs = true → as = bs
  | [], [], _ => rfl
  | a :: as, b :: bs, h => by
    simp only [sameAll, Bool.and_eq_true] at h
    rw [eq_of_same h.1, eq_of_sameAll h.2]
  | [], _ :: _, h => by simp [sameAll] at h
  | _ :: _, [], h => by simp [sameAll] at h

end

mutual

theorem same_self : ∀ a : Shape, same a a = true
  | unit => rfl
  | type r as => by simp [same, sameAll_self as]
  | unresolved m => by simp [same]

theorem sameAll_self : ∀ as : List Shape, sameAll as as = true
  | [] => rfl
  | a :: as => by simp [sameAll, same_self a, sameAll_self as]

end

/-- `same` decides equality. -/
theorem same_iff {a b : Shape} : same a b = true ↔ a = b :=
  ⟨eq_of_same, fun h => h ▸ same_self a⟩

instance : DecidableEq Shape := fun _ _ => decidable_of_iff _ same_iff

instance : Inhabited Shape := ⟨unit⟩

/-! ### Well-known shapes -/

/-- The raw name of the call abstraction itself, `Call<T>`. -/
def callName : String := "Call"

/-- The raw name of a decoded response with its status and headers, `Envelope<T>`. -/
def envelopeName : String := "Envelope"

/-- The raw name of a response nobody has decoded; it is never a payload. -/
def rawResponseName : String := "RawResponse"

/-- The raw name of response bytes that pass undecoded. -/
def responseBodyName : String := "ResponseBody"

/-- The raw name of request bytes that pass unencoded. -/
def requestBodyName : String := "RequestBody"

/-- The raw name of the marker for responses without a body. -/
def noContentName : String := "NoContent"

/-- A concrete type without parameters. -/
def named (raw : String) : Shape := type raw []

/-- `Call<payload>`. -/
def call (payload : Shape) : Shape := type callName [payload]

/-- `Envelope<payload>`. -/
def envelope (payload : Shape) : Shape := type envelopeName [payload]

/-! ### Parts -/

/-- The raw name of a concrete type. -/
def raw? : Shape → Option String
  | type raw _ => some raw
  | _ => none

/-- The parameters; only a concrete type has any. -/
def args : Shape → List Shape
  | type _ args => args
  | _ => []

/-- The parameter at `index`. -/
def param? (s : Shape) (index : Nat) : Option Shape := s.args[index]?

/-- Whether the raw name is `raw`, whatever the parameters are. -/
def is (s : Shape) (raw : String) : Bool := s.raw? == some raw

/-- Whether there are parameters. -/
def isParameterized (s : Shape) : Bool := !s.args.isEmpty

mutual

/-- Whether the shape, or a shape nested in it, is unresolved. -/
def hasUnresolved : Shape → Bool
  | unit => false
  | unresolved _ => true
  | type _ args => anyUnresolved args

/-- Whether one of the shapes has an unresolved part. -/
def anyUnresolved : List Shape → Bool
  | [] => false
  | a :: as => hasUnresolved a || anyUnresolved as

end

/-! ### Text -/

mutual

/-- The notation of messages: `()`, the name of a variable, `raw` or `raw<a, b>`. -/
def text : Shape → String
  | unit => "()"
  | unresolved name => name
  | type raw [] => raw
  | type raw (a :: as) => raw ++ "<" ++ text a ++ textRest as ++ ">"

/-- The further members of a parameter list, each after a comma. -/
def textRest : List Shape → String
  | [] => ""
  | a :: as => ", " ++ text a ++ textRest as

end

@[simp] theorem is_type (raw name : String) (args : List Shape) :
    (type raw args).is name = (raw == name) := by
  simp only [is, raw?]
  rfl

@[simp] theorem param?_type (raw : String) (args : List Shape) (i : Nat) :
    (type raw args).param? i = args[i]? := rfl

end Shape

end RemoteCall
