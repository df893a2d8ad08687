import RemoteCall.Proofs.RaceMoves
import RemoteCall.Registry.Directory

/-!
What the steps of a directory do.

`Directory.Proceeds` lists the ways in which the registration of a service can go from one stage to
the next, and `Directory.Move` the ways a step of a directory can go. Of what callers and readers do
only the effect on the registry is kept: they commit plans at most. All later statements on
directories are drawn from `Directory.move_of_step?`. The steps of a registration that nobody
interrupts put in what `Engine.addMethods` does at once (`Directory.adds_at_once`).
-/

namespace RemoteCall

variable {ρ σ δ : Type}

/-- A registry is as before, but for a plan that may have been committed. -/
def Registry.Committed (r r' : Registry ρ δ) : Prop :=
  r' = r ∨ ∃ slot plan, r' = r.commit slot plan

namespace Race

/-- Callers and readers change nothing of the registry but its plans. -/
theorem Move.committed {r r' : Race ρ δ} {label : RaceStep ρ δ} (move : Move r label r')
    (keeps : ∀ id, label ≠ .remove id) (adds : ∀ entry, label ≠ .register entry) :
    r.registry.Committed r'.registry := by
  cases move with
  | commit _ => exact Or.inr ⟨_, _, rfl⟩
  | register => exact absurd rfl (adds _)
  | remove => exact absurd rfl (keeps _)
  | _ => exact Or.inl rfl

theorem step?_start {r r' : Race ρ δ} {caller : Nat} {id : MethodId}
    (taken : r.step? (.start caller id) = some r') : r'.registry = r.registry := by
  cases move_of_step? taken with
  | start _ => rfl

end Race

namespace Directory

/-- The registration of a service goes from one stage to another, and what else has changed
then. -/
inductive Proceeds (s : Directory σ δ) (number caller : Nat) (d : ServiceDeclaration σ) :
    ServiceStage σ → ServiceStage σ → Directory σ δ → Prop where
  | added {done : List (String × MethodId)} (lazily : s.eager = false) :
      Proceeds s number caller d (.adding done []) (.returned ⟨d.name, done⟩) s
  | validates {done : List (String × MethodId)} (eagerly : s.eager = true) :
      Proceeds s number caller d (.adding done []) (.validating done (done.map (·.2))) s
  | draws {done : List (String × MethodId)} {record : MethodRecord σ}
      {rest : List (MethodRecord σ)} :
      Proceeds s number caller d (.adding done (record :: rest))
        (.placing done (s.draw number).1 record rest) (s.draw number).2
  | places {done : List (String × MethodId)} {id : MethodId} {record : MethodRecord σ}
      {rest : List (MethodRecord σ)} :
      Proceeds s number caller d (.placing done id record rest)
        (.adding (done ++ [(record.name, id)]) rest)
        (s.withRegistry (s.registry.insert id ⟨qualifiedName d.name record.name, record⟩))
  | returns {done : List (String × MethodId)} :
      Proceeds s number caller d (.validating done []) (.returned ⟨d.name, done⟩) s
  | resolves {done : List (String × MethodId)} {id : MethodId} {rest : List MethodId}
      {race : Race (MethodEntry σ) δ} (same : race.registry = s.registry) :
      Proceeds s number caller d (.validating done (id :: rest)) (.awaiting done rest)
        { s with race }
  | built {done : List (String × MethodId)} {rest : List MethodId} :
      Proceeds s number caller d (.awaiting done rest) (.validating done rest) s
  | fails {done : List (String × MethodId)} {rest : List MethodId} {error : Error} :
      Proceeds s number caller d (.awaiting done rest) (.removing (done.map (·.2)) error) s
  | panics {done : List (String × MethodId)} {rest : List MethodId} :
      Proceeds s number caller d (.awaiting done rest) .panicked s
  | refuses {error : Error} :
      Proceeds s number caller d (.removing [] error) (.refused error) s
  | removes {id : MethodId} {rest : List MethodId} {error : Error} :
      Proceeds s number caller d (.removing (id :: rest) error) (.removing rest error)
        (s.withRegistry (s.registry.remove id))

/-- A step and the state that it leads to. -/
inductive Move (s : Directory σ δ) : DirectoryStep σ δ → Directory σ δ → Prop where
  | race {step : RaceStep (MethodEntry σ) δ} {race : Race (MethodEntry σ) δ}
      (committed : s.registry.Committed race.registry) (keeps : ∀ id, step ≠ .remove id) :
      Move s (.race step) { s with race }
  | remove {id : MethodId} :
      Move s (.race (.remove id)) (s.withRegistry (s.registry.remove id))
  | add {entry : MethodEntry σ} :
      Move s (.add entry) { (s.draw s.work.length).2 with
        work := s.work ++ [.method entry (s.draw s.work.length).1 false] }
  | reject {caller : Nat} {d : ServiceDeclaration σ} {name : String}
      (twice : Engine.duplicate? [] (d.methods.map (·.name)) = some name) :
      Move s (.register caller d)
        { s with work := s.work ++ [.service caller d (.refused (repeated d name))] }
  | register {caller : Nat} {d : ServiceDeclaration σ}
      (once : Engine.duplicate? [] (d.methods.map (·.name)) = none) :
      Move s (.register caller d)
        { s with work := s.work ++ [.service caller d (.adding [] d.methods)] }
  | place {number : Nat} {entry : MethodEntry σ} {id : MethodId}
      (there : s.work[number]? = some (.method entry id false)) :
      Move s (.go number)
        ((s.withRegistry (s.registry.insert id entry)).put number (.method entry id true))
  | proceed {number caller : Nat} {d : ServiceDeclaration σ} {stage next : ServiceStage σ}
      {after : Directory σ δ} (there : s.work[number]? = some (.service caller d stage))
      (proceeds : Proceeds s number caller d stage next after) :
      Move s (.go number) (after.put number (.service caller d next))

section Steps

variable {s t : Directory σ δ}

theorem proceeds_of_proceed? {number caller : Nat} {d : ServiceDeclaration σ}
    {stage next : ServiceStage σ} (taken : s.proceed? number caller d stage = some (next, t)) :
    Proceeds s number caller d stage next t := by
  cases stage with
  | adding done rest =>
      cases rest with
      | nil =>
          dsimp only [proceed?] at taken
          cases eager : s.eager with
          | false =>
              rw [eager] at taken
              cases taken
              exact .added eager
          | true =>
              rw [eager] at taken
              cases taken
              exact .validates eager
      | cons record rest =>
          cases taken
          exact .draws
  | placing done id record rest =>
      cases taken
      exact .places
  | validating done rest =>
      cases rest with
      | nil =>
          cases taken
          exact .returns
      | cons id rest =>
          obtain ⟨race, started, same⟩ := Option.map_eq_some_iff.mp taken
          cases same
          exact .resolves (Race.step?_start started)
  | awaiting done rest =>
      dsimp only [proceed?] at taken
      split at taken
      · obtain ⟨ended, _, same⟩ := Option.map_eq_some_iff.mp taken
        split at same
        · cases same
          exact .built
        · cases same
          exact .fails
        · cases same
          exact .panics
      · cases taken
  | removing rest error =>
      cases rest with
      | nil =>
          cases taken
          exact .refuses
      | cons id rest =>
          cases taken
          exact .removes
  | returned service => cases taken
  | refused error => cases taken
  | panicked => cases taken

theorem move_of_race {step : RaceStep (MethodEntry σ) δ} {race : Race (MethodEntry σ) δ}
    (taken : s.race.step? step = some race) (keeps : ∀ id, step ≠ .remove id)
    (adds : ∀ entry, step ≠ .register entry) : Move s (.race step) { s with race } :=
  .race ((Race.move_of_step? taken).committed keeps adds) keeps

/-- Every step is one of the moves. -/
theorem move_of_step? {label : DirectoryStep σ δ} (taken : s.step? label = some t) :
    Move s label t := by
  cases label with
  | race step =>
      cases step with
      | register entry => cases taken
      | remove id =>
          cases taken
          exact .remove
      | start caller id =>
          dsimp only [step?] at taken
          split at taken
          · cases taken
          · obtain ⟨race, started, same⟩ := Option.map_eq_some_iff.mp taken
            cases same
            exact move_of_race started nofun nofun
      | _ =>
          obtain ⟨race, stepped, same⟩ := Option.map_eq_some_iff.mp taken
          cases same
          exact move_of_race stepped nofun nofun
  | add entry =>
      cases taken
      exact .add
  | register caller d =>
      dsimp only [step?] at taken
      split at taken
      · cases taken
      · cases names : Engine.duplicate? [] (d.methods.map (·.name)) with
        | some name =>
            rw [names] at taken
            cases taken
            exact .reject names
        | none =>
            rw [names] at taken
            cases taken
            exact .register names
  | go number =>
      dsimp only [step?] at taken
      cases there : s.work[number]? with
      | none =>
          rw [there] at taken
          cases taken
      | some registration =>
          rw [there] at taken
          cases registration with
          | method entry id placed =>
              cases placed with
              | true => cases taken
              | false =>
                  cases taken
                  exact .place there
          | service caller d stage =>
              obtain ⟨⟨next, after⟩, proceeded, same⟩ := Option.map_eq_some_iff.mp taken
              cases same
              exact .proceed there (proceeds_of_proceed? proceeded)

end Steps

/-! ### Adding without interruption -/

section Adding

variable {κ : Type} {s : Directory σ (Plan σ κ)} {number caller : Nat} {d : ServiceDeclaration σ}
  {done : List (String × MethodId)} {record : MethodRecord σ} {rest : List (MethodRecord σ)}

/-- Two steps of a registration add its next method. -/
theorem adds_next
    (there : s.work[number]? = some (.service caller d (.adding done (record :: rest)))) :
    ∃ t : Directory σ (Plan σ κ), [DirectoryStep.go number, .go number].foldlM step? s = some t ∧
      t.registry = (s.registry.register ⟨qualifiedName d.name record.name, record⟩).2 ∧
      t.work[number]? =
        some (.service caller d (.adding (done ++ [(record.name, ⟨s.registry.nextId⟩)]) rest)) := by
  have bound := (List.getElem?_eq_some_iff.mp there).1
  let drawn := (s.draw number).2.put number
    (.service caller d (.placing done ⟨s.registry.nextId⟩ record rest))
  have draws : s.step? (.go number) = some drawn := by
    rw [step?, there]
    rfl
  have drew : drawn.work[number]? =
      some (.service caller d (.placing done ⟨s.registry.nextId⟩ record rest)) :=
    List.getElem?_set_self bound
  let placed := (drawn.withRegistry (s.registry.register
    ⟨qualifiedName d.name record.name, record⟩).2).put number
    (.service caller d (.adding (done ++ [(record.name, ⟨s.registry.nextId⟩)]) rest))
  have places : drawn.step? (.go number) = some placed := by
    rw [step?, drew]
    rfl
  refine ⟨placed, ?_, rfl, List.getElem?_set_self ?_⟩
  · refine Option.bind_eq_some_iff.mpr ⟨drawn, draws, ?_⟩
    exact Option.bind_eq_some_iff.mpr ⟨placed, places, rfl⟩
  · exact lt_of_lt_of_eq bound List.length_set.symm

/-- A registration that nobody interrupts adds its methods as if it did so at once. -/
theorem adds_at_once {records : List (MethodRecord σ)}
    (there : s.work[number]? = some (.service caller d (.adding done records))) :
    ∃ t : Directory σ (Plan σ κ),
      (List.replicate (2 * records.length) (DirectoryStep.go number)).foldlM step? s = some t ∧
      t.registry = (Engine.addMethods d.name s.registry records).2 ∧
      t.work[number]? = some (.service caller d
        (.adding (done ++ (Engine.addMethods d.name s.registry records).1) [])) := by
  induction records generalizing s done with
  | nil =>
      refine ⟨s, rfl, rfl, ?_⟩
      rw [there, Engine.addMethods, List.append_nil]
  | cons record rest ih =>
      obtain ⟨next, steps, registry, reached⟩ := adds_next there
      obtain ⟨t, remaining, same, ended⟩ := ih reached
      refine ⟨t, ?_, ?_, ?_⟩
      · show ([DirectoryStep.go number, .go number] ++
          List.replicate (2 * rest.length) (DirectoryStep.go number)).foldlM step? s = some t
        rw [List.foldlM_append, steps]
        exact remaining
      · rw [same, registry]
        rfl
      · rw [ended, registry, List.append_assoc]
        rfl

end Adding

end Directory

end RemoteCall
