import RemoteCall.Proofs.FreshIds

/-!
Services are dispatch tables that stay right.

Registrations, removals, rollbacks and resolves go on in one registry in any order. `Effect` says
what a step does to the listing of the registry: nothing, or it takes one method out (`Takes`), or
it puts one in under a new id. From this, an id that is taken out is dead for ever (`dead_of_run`),
and a method that was put in is there until somebody takes it out (`entry_of_run`).
`registers_freshly` is what callers can rely on.
-/

namespace RemoteCall

variable {σ δ : Type}

/-- Whether a registration takes its methods out again, or has done so. -/
def ServiceStage.rollsBack : ServiceStage σ → Bool
  | removing _ _ | refused _ => true
  | _ => false

/-- Whether a registration is over. -/
def Registration.ended : Registration σ → Bool
  | method _ _ placed => placed
  | service _ _ stage => stage.ended

namespace Service

variable {service : Service} {name other : String} {id : MethodId}

/-- As long as no name is there twice, every method is found by its name. -/
theorem id?_eq_some (distinct : (service.methods.map (·.1)).Nodup) :
    service.id? name = some id ↔ (name, id) ∈ service.methods := by
  rw [id?, Option.map_eq_some_iff]
  constructor
  · rintro ⟨line, found, rfl⟩
    obtain rfl : line.1 = name := by simpa using List.find?_some found
    exact List.mem_of_find?_eq_some found
  · intro mem
    have some_line : (service.methods.find? fun line => line.1 == name).isSome :=
      List.find?_isSome.mpr ⟨(name, id), mem, beq_self_eq_true name⟩
    obtain ⟨line, found⟩ := Option.isSome_iff_exists.mp some_line
    have same : line.1 = name := by simpa using List.find?_some found
    have there := List.mem_of_find?_eq_some found
    have here := List.inj_on_of_nodup_map distinct there mem same
    exact ⟨line, found, congrArg Prod.snd here⟩

/-- The ids stand in the order of the names. -/
theorem names_map_id? (distinct : (service.methods.map (·.1)).Nodup) :
    (service.methods.map (·.1)).map service.id? = service.ids.map some := by
  rw [ids, List.map_map, List.map_map]
  exact List.map_congr_left fun line mem => (id?_eq_some distinct).mpr mem

theorem isSome_id? (distinct : (service.methods.map (·.1)).Nodup) :
    (service.id? name).isSome ↔ name ∈ service.methods.map (·.1) := by
  rw [Option.isSome_iff_exists, List.mem_map]
  constructor
  · rintro ⟨id, found⟩
    exact ⟨(name, id), (id?_eq_some distinct).mp found, rfl⟩
  · rintro ⟨line, mem, rfl⟩
    exact ⟨line.2, (id?_eq_some distinct).mpr mem⟩

theorem mem_ids (distinct : (service.methods.map (·.1)).Nodup) :
    id ∈ service.ids ↔ ∃ name, service.id? name = some id := by
  constructor
  · intro mem
    obtain ⟨line, here, rfl⟩ := List.mem_map.mp mem
    exact ⟨line.1, (id?_eq_some distinct).mpr here⟩
  · rintro ⟨name, found⟩
    exact List.mem_map_of_mem ((id?_eq_some distinct).mp found)

/-- Different names have different ids as long as no id is there twice. -/
theorem eq_of_id? (distinct : (service.methods.map (·.1)).Nodup) (ids : service.ids.Nodup)
    (found : service.id? name = some id) (also : service.id? other = some id) : name = other := by
  have here := (id?_eq_some distinct).mp found
  have there := (id?_eq_some distinct).mp also
  exact congrArg Prod.fst (List.inj_on_of_nodup_map ids here there rfl)

end Service

namespace Directory

/-- The steps of a run with the states before them, the latest first. -/
abbrev History (σ δ : Type) := List (Directory σ δ × DirectoryStep σ δ)

/-- A step takes the method with the given id out: it is a removal, or part of a rollback. -/
inductive Takes (s : Directory σ δ) : DirectoryStep σ δ → MethodId → Prop where
  | remove {id : MethodId} : Takes s (.race (.remove id)) id
  | rollBack {number caller : Nat} {d : ServiceDeclaration σ} {id : MethodId}
      {rest : List MethodId} {error : Error}
      (there : s.work[number]? = some (.service caller d (.removing (id :: rest) error))) :
      Takes s (.go number) id

/-- What a step does to the listing of the registry. -/
inductive Effect (s : Directory σ δ) (label : DirectoryStep σ δ) (t : Directory σ δ) : Prop where
  | none (same : t.registry.listing = s.registry.listing)
  | takes {id : MethodId} (takes : s.Takes label id) (removed : t.registry = s.registry.remove id)
  | puts {id : MethodId} {entry : MethodEntry σ} (absent : id ∉ s.registry.handed)
      (inserted : t.registry = s.registry.insert id entry)

/-- A registration takes its methods out again, or has done so. -/
def RolledBack (s : Directory σ δ) (number : Nat) : Prop :=
  ∃ caller d stage, s.work[number]? = some (.service caller d stage) ∧ stage.rollsBack

section Steps

variable {s t : Directory σ δ} {label : DirectoryStep σ δ} {id : MethodId} {number : Nat}
  {entry : MethodEntry σ}

theorem Move.effect (move : Move s label t) (sound : s.Sound) : Effect s label t := by
  cases move with
  | race committed _ => exact .none committed.listing_eq
  | remove => exact .takes .remove rfl
  | add => exact .none rfl
  | reject _ => exact .none rfl
  | register _ => exact .none rfl
  | place there =>
      cases sound.fits there with
      | drawn _ absent => exact .puts absent rfl
  | proceed there proceeds =>
      cases proceeds with
      | places =>
          cases sound.fits there with
          | placing _ _ _ _ absent _ _ => exact .puts absent rfl
      | resolves same => exact .none (congrArg Registry.listing same)
      | removes => exact .takes (.rollBack there) rfl
      | _ => exact .none rfl

theorem Move.registry_of_takes (move : Move s label t) (takes : s.Takes label id) :
    t.registry = s.registry.remove id := by
  cases takes with
  | remove =>
      cases move with
      | race _ keeps => exact absurd rfl (keeps id)
      | remove => rfl
  | rollBack there =>
      cases move with
      | place other =>
          rw [there] at other
          cases other
      | proceed other proceeds =>
          rw [there] at other
          cases other
          cases proceeds with
          | removes => rfl

/-- What is taken out does not come back. -/
theorem Effect.dead (effect : Effect s label t) (dead : s.registry.Dead id) :
    t.registry.Dead id := by
  cases effect with
  | none same => exact dead.of_listing same
  | takes _ removed =>
      rw [removed]
      exact dead.remove _
  | puts absent inserted =>
      rw [inserted]
      exact dead.insert absent _

/-- Only a step that takes a method out marks it as out. -/
theorem Effect.out (effect : Effect s label t) (out : (id, entry, false) ∈ t.registry.listing) :
    (id, entry, false) ∈ s.registry.listing ∨ (s.Takes label id ∧ id ∈ s.registry.handed) := by
  cases effect with
  | none same => exact Or.inl (same ▸ out)
  | @takes other takes removed =>
      rw [removed] at out
      obtain ⟨before, listed, live⟩ := Registry.mem_listing_remove.mp out
      by_cases here : id = other
      · subst here
        exact Or.inr ⟨takes, Registry.mem_handed.mpr ⟨entry, before, listed⟩⟩
      · rw [if_neg here] at live
        exact Or.inl (live ▸ listed)
  | puts absent inserted =>
      rw [inserted, Registry.listing_insert absent, List.mem_append, List.mem_singleton] at out
      rcases out with before | new
      · exact Or.inl before
      · cases new

theorem Move.drawn_mono (move : Move s label t) {line : MethodId × Nat} (mem : line ∈ s.drawn) :
    line ∈ t.drawn := by
  cases move with
  | add => exact List.mem_cons_of_mem _ mem
  | proceed _ proceeds =>
      cases proceeds with
      | draws => exact List.mem_cons_of_mem _ mem
      | _ => exact mem
  | _ => exact mem

/-- What becomes of a registration by a step. -/
inductive Becomes (s : Directory σ δ) (number : Nat) : Registration σ → Registration σ → Prop where
  | same {registration : Registration σ} : Becomes s number registration registration
  | placed {entry : MethodEntry σ} {id : MethodId} :
      Becomes s number (.method entry id false) (.method entry id true)
  | proceeds {caller : Nat} {d : ServiceDeclaration σ} {stage next : ServiceStage σ}
      {t : Directory σ δ} (proceeds : Proceeds s number caller d stage next t) :
      Becomes s number (.service caller d stage) (.service caller d next)

theorem Move.becomes (move : Move s label t) {registration : Registration σ}
    (there : s.work[number]? = some registration) :
    ∃ next, t.work[number]? = some next ∧ s.Becomes number registration next := by
  have bound := (List.getElem?_eq_some_iff.mp there).1
  have appended (last : Registration σ) : (s.work ++ [last])[number]? = some registration :=
    (List.getElem?_append_left bound).trans there
  have set (other : Nat) (next : Registration σ) (different : other ≠ number) :
      (s.work.set other next)[number]? = some registration :=
    (List.getElem?_set_ne different).trans there
  cases move with
  | race _ _ => exact ⟨registration, there, .same⟩
  | remove => exact ⟨registration, there, .same⟩
  | add => exact ⟨registration, appended _, .same⟩
  | reject _ => exact ⟨registration, appended _, .same⟩
  | register _ => exact ⟨registration, appended _, .same⟩
  | @place other entry id here =>
      by_cases same : other = number
      · subst same
        obtain rfl := Option.some.inj (there.symm.trans here)
        exact ⟨.method entry id true, List.getElem?_set_self bound, .placed⟩
      · exact ⟨registration, set other _ same, .same⟩
  | @proceed other caller d _ next after here proceeds =>
      rw [put, proceeds.work_eq]
      by_cases same : other = number
      · subst same
        obtain rfl := Option.some.inj (there.symm.trans here)
        exact ⟨.service caller d next, List.getElem?_set_self bound, .proceeds proceeds⟩
      · exact ⟨registration, set other _ same, .same⟩

theorem Move.rolledBack (move : Move s label t) (rolled : s.RolledBack number) :
    t.RolledBack number := by
  obtain ⟨caller, d, stage, there, rolls⟩ := rolled
  obtain ⟨next, now, becomes⟩ := move.becomes there
  cases becomes with
  | same => exact ⟨caller, d, stage, now, rolls⟩
  | proceeds proceeds =>
      refine ⟨caller, d, _, now, ?_⟩
      cases proceeds with
      | refuses => rfl
      | removes => rfl
      | _ => cases rolls

/-- A registration that is over stays as it is. -/
theorem Move.over_stays (move : Move s label t) {registration : Registration σ}
    (there : s.work[number]? = some registration) (ended : registration.ended) :
    t.work[number]? = some registration := by
  obtain ⟨next, now, becomes⟩ := move.becomes there
  cases becomes with
  | same => exact now
  | placed => cases ended
  | proceeds proceeds => cases proceeds <;> cases ended

end Steps

/-! ### Runs -/

/-- Somebody has removed a method that was registered under the id. -/
def Removed (history : History σ δ) (id : MethodId) : Prop :=
  ∃ s, (s, .race (.remove id)) ∈ history ∧ id ∈ s.registry.handed

section Runs

variable {eager : Bool} {history : History σ δ} {s : Directory σ δ} {id : MethodId}
  {number : Nat} {entry : MethodEntry σ}

theorem sound_start (eager : Bool) : (start eager : Directory σ δ).Sound where
  numbered := ⟨rfl, nofun, .nil, nofun, .nil⟩
  owned := nofun
  fits := nofun

theorem sound_of_run (run : Run step? (start eager) history s) (few : s.Few) : s.Sound :=
  run.keeps (P := fun s => s.Few → s.Sound)
    (fun taken sound few => (move_of_step? taken).sound (sound ((move_of_step? taken).few few)) few)
    (fun _ => sound_start eager) few

theorem few_of_run {t : Directory σ δ} (run : Run step? t history s) (few : s.Few) : t.Few := by
  induction run with
  | refl => exact few
  | step _ taken ih => exact ih ((move_of_step? taken).few few)

/-- An id under which a method was put in and taken out is dead for ever. -/
theorem dead_of_run (run : Run step? (start eager) history s) (few : s.Few)
    {before : Directory σ δ} {label : DirectoryStep σ δ} (mem : (before, label) ∈ history)
    (takes : before.Takes label id) (handed : id ∈ before.registry.handed) :
    s.registry.Dead id := by
  obtain ⟨after, earlier, later, _, reached, taken, rest⟩ := run.cut mem
  have sound := sound_of_run (reached.step taken) (few_of_run rest few)
  have dead : after.registry.Dead id := by
    rw [(move_of_step? taken).registry_of_takes takes]
    exact Registry.dead_of_remove handed
  have both := rest.keeps (P := fun s => s.Few → s.Sound ∧ s.registry.Dead id)
    (fun taken holds few => by
      have move := move_of_step? taken
      obtain ⟨sound, dead⟩ := holds (move.few few)
      exact ⟨move.sound sound few, (move.effect sound).dead dead⟩)
    (fun _ => ⟨sound, dead⟩)
  exact (both few).2

/-- What is marked as out was taken out. -/
theorem taken_of_run (run : Run step? (start eager) history s) (few : s.Few)
    (out : (id, entry, false) ∈ s.registry.listing) :
    ∃ before label, (before, label) ∈ history ∧ before.Takes label id ∧
      id ∈ before.registry.handed := by
  induction run with
  | refl => cases out
  | @step earlier before _ label run taken ih =>
      have move := move_of_step? taken
      have few_before := move.few few
      rcases (move.effect (sound_of_run run few_before)).out out with old | ⟨takes, handed⟩
      · obtain ⟨s, last, mem, found⟩ := ih few_before old
        exact ⟨s, last, List.mem_cons_of_mem _ mem, found⟩
      · exact ⟨before, label, List.mem_cons_self, takes, handed⟩

/-- The method that a registration has put in is there until somebody removes it, unless the
registration itself takes it out again. -/
theorem entry_of_run (run : Run step? (start eager) history s) (few : s.Few)
    (filed : s.Filed number id entry) (stays : ¬ s.RolledBack number) :
    s.registry.entry id = .ok entry ∨ Removed history id := by
  have numbered := (sound_of_run run few).numbered
  obtain ⟨mine, live, listed⟩ := filed
  cases live with
  | true => exact Or.inl (Registry.entry_of_listed numbered.distinct listed)
  | false =>
      right
      obtain ⟨before, label, mem, takes, handed⟩ := taken_of_run run few listed
      cases takes with
      | remove => exact ⟨before, mem, handed⟩
      | @rollBack other caller d _ rest error there =>
          -- A rollback takes out what its registration has drawn, so it would be this one.
          obtain ⟨after, earlier, later, _, reached, taken, rest_run⟩ := run.cut mem
          have few_after := few_of_run rest_run few
          have few_before := (move_of_step? taken).few few_after
          have theirs : (id, other) ∈ before.drawn := by
            cases (sound_of_run reached few_before).fits there with
            | removing mine _ => exact (mine id List.mem_cons_self).1
          have still : (id, other) ∈ s.drawn := rest_run.keeps (P := fun s => (id, other) ∈ s.drawn)
            (fun taken => (move_of_step? taken).drawn_mono)
            ((move_of_step? taken).drawn_mono theirs)
          obtain rfl := numbered.same mine still
          have rolled : before.RolledBack other := ⟨caller, d, _, there, rfl⟩
          exact absurd (rest_run.keeps (P := fun s => s.RolledBack other)
            (fun taken => (move_of_step? taken).rolledBack)
            ((move_of_step? taken).rolledBack rolled)) stays

/-- Whatever a rollback takes out was put in by its own registration. -/
theorem own_of_run (run : Run step? (start eager) history s) (few : s.Few)
    {before : Directory σ δ} (mem : (before, .go number) ∈ history)
    (takes : before.Takes (.go number) id) :
    (id, number) ∈ before.drawn ∧ id ∈ before.registry.handed := by
  obtain ⟨after, earlier, later, _, reached, taken, rest⟩ := run.cut mem
  have few_before := (move_of_step? taken).few (few_of_run rest few)
  cases takes with
  | rollBack there =>
      cases (sound_of_run reached few_before).fits there with
      | removing mine _ => exact mine id List.mem_cons_self

end Runs

/-! ### What callers can rely on -/

/-- An id is refused, and whoever looks it up finds nothing. -/
structure Gone (s : Directory σ δ) (id : MethodId) : Prop where
  entry : s.registry.entry id = .error (.unknownMethod id)
  get : s.registry.get? id = none
  resolve : ∀ (τ : Type) (build : MethodId → MethodEntry σ → StateM τ (Except Error δ)) (p : τ),
    (s.registry.resolve id build).run p = ((.error (.unknownMethod id), s.registry), p)
  /-- This is what a caller comes to who is about to look the id up. -/
  lookup : ∀ caller rest, s.race.frames caller = ⟨id, .lookup⟩ :: rest →
    ∃ t, s.step? (.race (.advance caller)) = some t ∧
      t.race.ended = ⟨caller, id, none, .failed (.unknownMethod id)⟩ :: s.race.ended
  look : ∀ reader, s.race.looking reader = none →
    ∃ t, s.step? (.race (.look reader id)) = some t ∧
      t.race.looked = ⟨id, none, none⟩ :: s.race.looked

/-- A method is in the registry, or it is gone because somebody has removed it. -/
def Serves (history : History σ δ) (s : Directory σ δ) (id : MethodId) (entry : MethodEntry σ) :
    Prop :=
  s.registry.entry id = .ok entry ∨ (Removed history id ∧ s.Gone id)

/-- A service that a registration has returned is the table of what was declared. -/
structure Table (history : History σ δ) (s : Directory σ δ) (number : Nat)
    (d : ServiceDeclaration σ) (service : Service) : Prop where
  name : service.name = d.name
  rising : service.ids.Pairwise fun a b => a.number < b.number
  drawn : ∀ id ∈ service.ids, (id, number) ∈ s.drawn
  /-- The ids stand in the order of the declaration. -/
  order : d.names.map service.id? = service.ids.map some
  declared : ∀ name, (service.id? name).isSome ↔ name ∈ d.names
  listed : ∀ id, id ∈ service.ids ↔ ∃ name, service.id? name = some id
  injective : ∀ {name other id}, service.id? name = some id → service.id? other = some id →
    name = other
  entries : ∀ record ∈ d.methods, ∃ id, service.id? record.name = some id ∧
    Serves history s id ⟨qualifiedName d.name record.name, record⟩

/-- What holds after a run as long as the ids last. -/
structure RegistersFreshly (history : History σ δ) (s : Directory σ δ) : Prop where
  distinct : (s.drawn.map (·.1)).Nodup
  handed : s.registry.handed.Nodup ∧ ∀ id ∈ s.registry.handed, ∃ number, (id, number) ∈ s.drawn
  gone : ∀ before label id, (before, label) ∈ history → before.Takes label id →
    id ∈ before.registry.handed → s.Gone id
  others : ∀ before label after id other, (before, label) ∈ history →
    before.step? label = some after → before.Takes label id → other ≠ id →
    after.registry.entry other = before.registry.entry other ∧
      after.registry.slotOf? other = before.registry.slotOf? other ∧
      after.registry.get? other = before.registry.get? other
  own : ∀ before number id, (before, .go number) ∈ history → before.Takes (.go number) id →
    (id, number) ∈ before.drawn ∧ id ∈ before.registry.handed
  /-- A registration that is over stays as it is, so the following is about all there ever were. -/
  stays : ∀ before label (number : Nat) (registration : Registration σ), (before, label) ∈ history →
    before.work[number]? = some registration → registration.ended →
    s.work[number]? = some registration
  /-- Of a registration that has failed nothing is left. -/
  refused : ∀ number caller d error, s.work[number]? = some (.service caller d (.refused error)) →
    ∀ id, (id, number) ∈ s.drawn → s.Gone id
  methods : ∀ number entry id, s.work[number]? = some (.method entry id true) →
    (id, number) ∈ s.drawn ∧ Serves history s id entry
  tables : ∀ number caller d service,
    s.work[number]? = some (.service caller d (.returned service)) →
    Table history s number d service

section Rely

variable {eager : Bool} {history : History σ δ} {s : Directory σ δ} {id : MethodId}
  {number : Nat} {entry : MethodEntry σ} {d : ServiceDeclaration σ}

theorem gone_of_dead (dead : s.registry.Dead id) : s.Gone id where
  entry := dead.entry_eq
  get := dead.get?_eq
  resolve _ build p := Registry.run_resolve_of_unknown build dead.slotOf?_eq p
  lookup caller rest top := by
    let race := s.race.withEnded caller rest ⟨caller, id, none, .failed (.unknownMethod id)⟩
    have fails : s.race.step? (.advance caller) = some race := by
      have unknown : s.race.registry.slotOf? id = none := dead.slotOf?_eq
      simp only [Race.step?, Race.advance?, top, unknown]
      rw [Race.finishFrame_of_top top]
    refine ⟨{ s with race }, ?_, rfl⟩
    exact Option.map_eq_some_iff.mpr ⟨race, fails, rfl⟩
  look reader idle := by
    let race := { s.race with looked := ⟨id, none, none⟩ :: s.race.looked }
    have finds_nothing : s.race.step? (.look reader id) = some race := by
      have unknown : s.race.registry.slotOf? id = none := dead.slotOf?_eq
      simp only [Race.step?, idle, unknown]
      rfl
    refine ⟨{ s with race }, ?_, rfl⟩
    exact Option.map_eq_some_iff.mpr ⟨race, finds_nothing, rfl⟩

theorem Filled.names_eq {done : List (String × MethodId)} {records : List (MethodRecord σ)}
    (filled : s.Filled number d done records) : done.map (·.1) = records.map (·.name) := by
  have filed := filled.filed
  clear filled
  induction filed with
  | nil => rfl
  | cons head _ ih => rw [List.map_cons, List.map_cons, head.1, ih]

/-- Behind the name of each method stands an id under which it was put in. -/
theorem Filled.at_record {done : List (String × MethodId)} {records : List (MethodRecord σ)}
    (filled : s.Filled number d done records) {record : MethodRecord σ} (mem : record ∈ records) :
    ∃ id, (record.name, id) ∈ done ∧ s.Filed number id (d.entryOf record) := by
  have filed := filled.filed
  clear filled
  induction filed with
  | nil => cases mem
  | @cons line _ _ _ head _ ih =>
      rcases List.mem_cons.mp mem with rfl | mem
      · exact ⟨line.2, head.1 ▸ List.mem_cons_self, head.2⟩
      · obtain ⟨id, there, filed⟩ := ih mem
        exact ⟨id, List.mem_cons_of_mem _ there, filed⟩

/-- The method that a registration has put in is served as long as nobody removes it, unless the
registration itself takes it out again. -/
theorem serves_of_run (run : Run step? (start eager) history s) (few : s.Few)
    (filed : s.Filed number id entry) (stays : ¬ s.RolledBack number) :
    Serves history s id entry := by
  rcases entry_of_run run few filed stays with there | removed
  · exact Or.inl there
  · obtain ⟨before, mem, handed⟩ := removed
    exact Or.inr ⟨⟨before, mem, handed⟩, gone_of_dead (dead_of_run run few mem .remove handed)⟩

theorem table_of_run (run : Run step? (start eager) history s) (few : s.Few) {caller : Nat}
    {service : Service}
    (there : s.work[number]? = some (.service caller d (.returned service))) :
    Table history s number d service := by
  cases (sound_of_run run few).fits there with
  | @returned _ _ done distinct filled =>
      have names : done.map (·.1) = d.names := filled.names_eq
      have once : (done.map (·.1)).Nodup := names ▸ distinct
      have ids_once : (Service.mk d.name done).ids.Nodup := filled.rising.imp fun less same => by
        rw [same] at less
        exact Nat.lt_irrefl _ (UInt64.lt_iff_toNat_lt.mp less)
      have stays : ¬ s.RolledBack number := by
        rintro ⟨_, _, _, same, rolls⟩
        rw [there] at same
        cases same
        cases rolls
      constructor
      case name => rfl
      case rising => exact filled.rising
      case drawn =>
        intro id mem
        obtain ⟨line, here, rfl⟩ := List.mem_map.mp mem
        exact (filled.mine here).1
      case order => exact names ▸ Service.names_map_id? once
      case declared => exact fun name => names ▸ Service.isSome_id? once
      case listed => exact fun id => Service.mem_ids once
      case injective => exact fun found also => Service.eq_of_id? once ids_once found also
      case entries =>
        intro record mem
        obtain ⟨id, here, filed⟩ := filled.at_record mem
        exact ⟨id, (Service.id?_eq_some once).mpr here, serves_of_run run few filed stays⟩

/-- In every run of registrations, removals and resolves, as long as the ids last: ids are fresh, an
id that was taken out is refused for ever, nothing happens to other ids then, and every service that
was returned is the table of its declaration. -/
theorem registers_freshly (run : Run step? (start eager) history s) (few : s.Few) :
    RegistersFreshly history s where
  distinct := (sound_of_run run few).numbered.nodup
  handed := ⟨(sound_of_run run few).numbered.distinct, (sound_of_run run few).numbered.listed⟩
  gone _ _ _ mem takes handed := gone_of_dead (dead_of_run run few mem takes handed)
  others before label after id other _ taken takes different := by
    rw [(move_of_step? taken).registry_of_takes takes]
    exact ⟨Registry.entry_remove_other _ different, Registry.slotOf?_remove_other _ different,
      Registry.get?_remove_other _ different⟩
  own _ _ _ mem takes := own_of_run run few mem takes
  stays _ _ number registration mem there ended :=
    run.kept_since (P := fun s => s.work[number]? = some registration)
      (fun taken there => (move_of_step? taken).over_stays there ended) mem there
  refused number caller d error there id drawn := by
    cases (sound_of_run run few).fits there with
    | refused gone => exact gone_of_dead (gone id drawn)
  methods number entry id there := by
    cases (sound_of_run run few).fits there with
    | placed filed =>
        refine ⟨filed.mine, serves_of_run run few filed ?_⟩
        rintro ⟨_, _, _, same, _⟩
        rw [there] at same
        cases same
  tables _ _ _ _ there := table_of_run run few there

end Rely

/-- A service with two methods. -/
def notes : ServiceDeclaration Unit where
  name := "Notes"
  methods := ["read", "write"].map (emptyRequestMethod · (.suspend (.unresolved "T")))

/-- A caller goes through the resolve of a method that has no plan until its build ends so. -/
def buildsBy (caller : Nat) (result : BuildEnd Unit) : List (DirectoryStep Unit Unit) :=
  List.replicate 4 (.race (.advance caller)) ++ [.race (.finish caller result)]

/-- Two callers register the same service, and draw their ids in turn. A plan of the first can not
be made, so it takes its methods out, while the second goes on. The first method that the second has
registered is then removed. -/
def failingBeside : List (DirectoryStep Unit Unit) :=
  [.register 0 notes, .register 1 notes, .go 0, .go 1, .go 0, .go 0, .go 0, .go 1, .go 0, .go 0] ++
    buildsBy 0 (.failed .canceled) ++ [.race (.advance 0), .go 0, .go 0, .go 1, .go 0, .go 1] ++
    [.go 0, .go 1, .go 1] ++ buildsBy 1 (.built ()) ++ [.race (.advance 1), .race (.advance 1)] ++
    [.go 1, .go 1] ++ buildsBy 1 (.built ()) ++ [.race (.advance 1), .race (.advance 1)] ++
    [.go 1, .go 1, .race (.remove ⟨2⟩)]

/-- The run of `failingBeside`: one registration has failed, the other has returned its service. -/
theorem registers_freshly_beside_failure : ∃ history, ∃ s : Directory Unit Unit,
    Run step? (start true) history s ∧ s.Few ∧
      s.work = [.service 0 notes (.refused .canceled),
        .service 1 notes (.returned ⟨"Notes", [("read", ⟨2⟩), ("write", ⟨4⟩)]⟩)] ∧
      RegistersFreshly history s := by
  have ends : (failingBeside.foldlM step? (start true)).map
      (fun s => (s.drawn, s.work)) = some ([(⟨4⟩, 1), (⟨3⟩, 0), (⟨2⟩, 1), (⟨1⟩, 0)],
        [.service 0 notes (.refused .canceled),
          .service 1 notes (.returned ⟨"Notes", [("read", ⟨2⟩), ("write", ⟨4⟩)]⟩)]) := rfl
  obtain ⟨s, taken, same⟩ := Option.map_eq_some_iff.mp ends
  obtain ⟨drawn, work⟩ := Prod.mk.inj same
  have few : s.Few := by
    rw [Few, drawn]
    decide
  obtain ⟨history, run⟩ := Run.of_foldlM taken
  exact ⟨history, s, run, few, work, registers_freshly run few⟩

end Directory

end RemoteCall
