import RemoteCall.Engine.Methods

/-!
A registry with the registrations that are being made in it.

In a `Directory` any number of registrations go on at once, beside the callers and readers of a
`Race` and beside removals. A registration draws each id (`draw`) and puts the method in under it
(`insert`) in two steps, between which others may draw and put in theirs. A service is registered
method by method; a client that validates eagerly then has its plans made one after the other, and
takes its methods out again, one by one, if that fails. A registration is named by its number in the
order of the starts. `Directory.step?` has the atomic steps.
-/

namespace RemoteCall

namespace Registry

variable {ρ δ : Type}

/-- Takes the next id. -/
def draw (r : Registry ρ δ) : MethodId × Registry ρ δ :=
  (⟨r.nextId⟩, { r with nextId := r.nextId + 1 })

/-- Puts a method in under an id, in the place of what was there. -/
def insert (r : Registry ρ δ) (id : MethodId) (entry : ρ) : Registry ρ δ :=
  { r.remove id with slots := (r.remove id).slots ++ [{ id, entry }] }

/-- To register a method is to draw an id and to put the method in. -/
theorem register_eq_insert (r : Registry ρ δ) (entry : ρ) :
    r.register entry = (r.draw.1, r.draw.2.insert r.draw.1 entry) := rfl

end Registry

/-- How far the registration of a service is. -/
inductive ServiceStage (σ : Type) where
  | adding (done : List (String × MethodId)) (rest : List (MethodRecord σ))
  /-- The next method has an id and is not in the registry yet. -/
  | placing (done : List (String × MethodId)) (id : MethodId) (record : MethodRecord σ)
    (rest : List (MethodRecord σ))
  | validating (done : List (String × MethodId)) (rest : List MethodId)
  /-- The plan of a method is being made, and the rest comes afterwards. -/
  | awaiting (done : List (String × MethodId)) (rest : List MethodId)
  /-- A plan could not be made, and the rest of the methods is to be taken out again. -/
  | removing (rest : List MethodId) (error : Error)
  | returned (service : Service)
  | refused (error : Error)
  | panicked

/-- Whether the registration is over. -/
def ServiceStage.ended {σ : Type} : ServiceStage σ → Bool
  | returned _ | refused _ | panicked => true
  | _ => false

/-- A registration, of one method or of a service. -/
inductive Registration (σ : Type) where
  /-- A method that has an id; `placed` tells whether it is in the registry. -/
  | method (entry : MethodEntry σ) (id : MethodId) (placed : Bool)
  /-- A service that a caller registers. -/
  | service (caller : Nat) (d : ServiceDeclaration σ) (stage : ServiceStage σ)

/-- A registry, those who are at work on it, and the registrations. -/
structure Directory (σ δ : Type) where
  /-- Whether the client makes all plans when it registers a service. -/
  eager : Bool
  race : Race (MethodEntry σ) δ := { registry := .empty }
  /-- The registrations, the latest last. -/
  work : List (Registration σ) := []
  /-- The ids that were drawn, each with the number of the registration, the latest first. -/
  drawn : List (MethodId × Nat) := []

/-- What may happen next. -/
inductive DirectoryStep (σ δ : Type) where
  /-- A caller resolves, a reader reads, or a method is removed. -/
  | race (step : RaceStep (MethodEntry σ) δ)
  /-- A method is registered on its own. -/
  | add (entry : MethodEntry σ)
  /-- A caller registers a service. -/
  | register (caller : Nat) (d : ServiceDeclaration σ)
  /-- A registration goes on. -/
  | go (number : Nat)

namespace Directory

variable {σ δ : Type}

/-- The directory of a new client. -/
def start (eager : Bool) : Directory σ δ := { eager }

def registry (s : Directory σ δ) : Registry (MethodEntry σ) δ := s.race.registry

def withRegistry (s : Directory σ δ) (registry : Registry (MethodEntry σ) δ) : Directory σ δ :=
  { s with race := { s.race with registry } }

/-- Moves a registration to another stage. -/
def put (s : Directory σ δ) (number : Nat) (registration : Registration σ) : Directory σ δ :=
  { s with work := s.work.set number registration }

/-- A registration draws an id. -/
def draw (s : Directory σ δ) (number : Nat) : MethodId × Directory σ δ :=
  let (id, registry) := s.registry.draw
  (id, { s.withRegistry registry with drawn := (id, number) :: s.drawn })

/-- Whether a caller is in the middle of a registration. -/
def atWork (s : Directory σ δ) (caller : Nat) : Bool :=
  s.work.any fun
    | .method .. => false
    | .service other _ stage => other == caller && !stage.ended

/-- The error for a service that declares a name twice. -/
def repeated (d : ServiceDeclaration σ) (name : String) : Error :=
  .configuration (some (qualifiedName d.name name)) "Duplicate method name."

/-- The next stage of the registration of a service, and what the step to it does besides. -/
def proceed? (s : Directory σ δ) (number caller : Nat) (d : ServiceDeclaration σ) :
    ServiceStage σ → Option (ServiceStage σ × Directory σ δ)
  | .adding done [] =>
    some (if s.eager then .validating done (done.map (·.2)) else .returned ⟨d.name, done⟩, s)
  | .adding done (record :: rest) =>
    let (id, s) := s.draw number
    some (.placing done id record rest, s)
  | .placing done id record rest =>
    let registry := s.registry.insert id ⟨qualifiedName d.name record.name, record⟩
    some (.adding (done ++ [(record.name, id)]) rest, s.withRegistry registry)
  | .validating done [] => some (.returned ⟨d.name, done⟩, s)
  | .validating done (id :: rest) =>
    (s.race.step? (.start caller id)).map fun race => (.awaiting done rest, { s with race })
  | .awaiting done rest =>
    if (s.race.frames caller).isEmpty then
      (s.race.ended.find? (·.caller == caller)).map fun ended =>
        match ended.result with
        | .built _ => (.validating done rest, s)
        | .failed error => (.removing (done.map (·.2)) error, s)
        | .panicked => (.panicked, s)
    else none
  | .removing [] error => some (.refused error, s)
  | .removing (id :: rest) error =>
    some (.removing rest error, s.withRegistry (s.registry.remove id))
  | .returned _ | .refused _ | .panicked => none

/-- The atomic steps; none where a step is not enabled. A caller that registers a service resolves
nothing else meanwhile, unless a build wants it. -/
def step? (s : Directory σ δ) : DirectoryStep σ δ → Option (Directory σ δ)
  | .race (.register _) => none
  | .race (.start caller id) =>
    if s.atWork caller && (s.race.frames caller).isEmpty then none
    else (s.race.step? (.start caller id)).map fun race => { s with race }
  | .race step => (s.race.step? step).map fun race => { s with race }
  | .add entry =>
    let (id, after) := s.draw s.work.length
    some { after with work := s.work ++ [.method entry id false] }
  | .register caller d =>
    if s.atWork caller || !(s.race.frames caller).isEmpty then none
    else
      let stage := match Engine.duplicate? [] (d.methods.map (·.name)) with
        | some name => .refused (repeated d name)
        | none => .adding [] d.methods
      some { s with work := s.work ++ [.service caller d stage] }
  | .go number =>
    match s.work[number]? with
    | none => none
    | some (.method entry id placed) =>
      if placed then none
      else some ((s.withRegistry (s.registry.insert id entry)).put number (.method entry id true))
    | some (.service caller d stage) =>
      (s.proceed? number caller d stage).map fun (next, after) =>
        after.put number (.service caller d next)

end Directory

end RemoteCall
