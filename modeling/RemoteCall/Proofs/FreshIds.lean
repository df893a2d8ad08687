import Mathlib.Data.List.Forall2
import Mathlib.Data.List.Nodup
import RemoteCall.Proofs.DirectoryMoves
import RemoteCall.Proofs.EagerRegistration
import RemoteCall.Proofs.Listings
import RemoteCall.Proofs.Run

/-!
Ids are drawn once.

As long as the ids last (`Directory.Few`), each id that is drawn is larger than all earlier ones
(`Numbered`). `Directory.Fits` says what goes with each stage of a registration: which of its
methods are in the registry, and which ids it has drawn, and it alone. One step of a registration
keeps its own stage right (`Proceeds.fits`) and leaves those of the others alone (`Fits.later`), so
every step keeps a directory `Sound` (`Move.sound`).
-/

namespace RemoteCall

variable {σ δ : Type}

theorem Registry.Committed.listing_eq {ρ : Type} {r r' : Registry ρ δ}
    (committed : r.Committed r') : r'.listing = r.listing := by
  rcases committed with rfl | ⟨slot, plan, rfl⟩
  · rfl
  · exact Registry.listing_commit r slot plan

theorem Registry.Committed.nextId_eq {ρ : Type} {r r' : Registry ρ δ} (committed : r.Committed r') :
    r'.nextId = r.nextId := by
  rcases committed with rfl | ⟨slot, plan, rfl⟩
  · rfl
  · rfl

/-- What a service puts into the registry for one of its methods. -/
def ServiceDeclaration.entryOf (d : ServiceDeclaration σ) (record : MethodRecord σ) :
    MethodEntry σ :=
  ⟨qualifiedName d.name record.name, record⟩

/-- The names of the declared methods. -/
def ServiceDeclaration.names (d : ServiceDeclaration σ) : List String := d.methods.map (·.name)

namespace Directory

/-- The ids are not used up. -/
def Few (s : Directory σ δ) : Prop := s.drawn.length < UInt64.size - 1

/-- Ids are drawn in rising order, and methods are put in under drawn ids, each at most once. -/
structure Numbered (s : Directory σ δ) : Prop where
  next : (⟨s.registry.nextId⟩ : MethodId) = Registry.nthId (s.drawn.length + 1)
  bounded : ∀ line ∈ s.drawn, line.1.number.toNat ≤ s.drawn.length
  falling : (s.drawn.map (·.1)).Pairwise fun a b => b.number < a.number
  listed : ∀ id ∈ s.registry.handed, ∃ number, (id, number) ∈ s.drawn
  distinct : s.registry.handed.Nodup

/-- A registration has put a method in under an id that it has drawn. -/
structure Filed (s : Directory σ δ) (number : Nat) (id : MethodId) (entry : MethodEntry σ) :
    Prop where
  mine : (id, number) ∈ s.drawn
  listed : ∃ live, (id, entry, live) ∈ s.registry.listing

/-- A registration has put some methods of a service in, in this order, under rising ids. -/
structure Filled (s : Directory σ δ) (number : Nat) (d : ServiceDeclaration σ)
    (done : List (String × MethodId)) (records : List (MethodRecord σ)) : Prop where
  rising : (done.map (·.2)).Pairwise fun a b => a.number < b.number
  filed : List.Forall₂ (fun line record => line.1 = record.name ∧
    s.Filed number line.2 (d.entryOf record)) done records

/-- A registration has drawn no ids but these. -/
def Draws (s : Directory σ δ) (number : Nat) (ids : List MethodId) : Prop :=
  ∀ {id}, (id, number) ∈ s.drawn → id ∈ ids

/-- What goes with the stage of a registration. -/
inductive Fits (s : Directory σ δ) (number : Nat) : Registration σ → Prop where
  | drawn {entry : MethodEntry σ} {id : MethodId} (mine : (id, number) ∈ s.drawn)
      (absent : id ∉ s.registry.handed) : Fits s number (.method entry id false)
  | placed {entry : MethodEntry σ} {id : MethodId} (filed : s.Filed number id entry) :
      Fits s number (.method entry id true)
  | adding {caller : Nat} {d : ServiceDeclaration σ} {done : List (String × MethodId)}
      {before rest : List (MethodRecord σ)} (split : before ++ rest = d.methods)
      (distinct : d.names.Nodup) (filled : s.Filled number d done before)
      (draws : s.Draws number (done.map (·.2))) :
      Fits s number (.service caller d (.adding done rest))
  | placing {caller : Nat} {d : ServiceDeclaration σ} {done : List (String × MethodId)}
      {id : MethodId} {record : MethodRecord σ} {before rest : List (MethodRecord σ)}
      (split : before ++ record :: rest = d.methods) (distinct : d.names.Nodup)
      (filled : s.Filled number d done before) (mine : (id, number) ∈ s.drawn)
      (absent : id ∉ s.registry.handed) (above : ∀ line ∈ done, line.2.number < id.number)
      (draws : s.Draws number (id :: done.map (·.2))) :
      Fits s number (.service caller d (.placing done id record rest))
  | validating {caller : Nat} {d : ServiceDeclaration σ} {done : List (String × MethodId)}
      {rest : List MethodId} (distinct : d.names.Nodup)
      (filled : s.Filled number d done d.methods) (draws : s.Draws number (done.map (·.2))) :
      Fits s number (.service caller d (.validating done rest))
  | awaiting {caller : Nat} {d : ServiceDeclaration σ} {done : List (String × MethodId)}
      {rest : List MethodId} (distinct : d.names.Nodup)
      (filled : s.Filled number d done d.methods) (draws : s.Draws number (done.map (·.2))) :
      Fits s number (.service caller d (.awaiting done rest))
  | removing {caller : Nat} {d : ServiceDeclaration σ} {rest : List MethodId} {error : Error}
      (mine : ∀ id ∈ rest, (id, number) ∈ s.drawn ∧ id ∈ s.registry.handed)
      (gone : ∀ id, (id, number) ∈ s.drawn → id ∈ rest ∨ s.registry.Dead id) :
      Fits s number (.service caller d (.removing rest error))
  | returned {caller : Nat} {d : ServiceDeclaration σ} {done : List (String × MethodId)}
      (distinct : d.names.Nodup) (filled : s.Filled number d done d.methods) :
      Fits s number (.service caller d (.returned ⟨d.name, done⟩))
  | refused {caller : Nat} {d : ServiceDeclaration σ} {error : Error}
      (gone : ∀ id, (id, number) ∈ s.drawn → s.registry.Dead id) :
      Fits s number (.service caller d (.refused error))
  | panicked {caller : Nat} {d : ServiceDeclaration σ} :
      Fits s number (.service caller d .panicked)

/-- What holds of a directory as long as the ids last. -/
structure Sound (s : Directory σ δ) : Prop where
  numbered : s.Numbered
  owned : ∀ line ∈ s.drawn, line.2 < s.work.length
  fits : ∀ {number registration}, s.work[number]? = some registration → s.Fits number registration

/-- The registry after a step of one registration: what is in it stays listed, what was taken out
stays out, and what is new was drawn by that registration. -/
structure Later (s t : Directory σ δ) (number : Nat) : Prop where
  drawn : t.drawn = s.drawn ∨ ∃ id, t.drawn = (id, number) :: s.drawn
  kept : ∀ {id entry live}, (id, entry, live) ∈ s.registry.listing →
    ∃ live, (id, entry, live) ∈ t.registry.listing
  dead : ∀ {id}, s.registry.Dead id → t.registry.Dead id
  new : ∀ {id}, id ∈ t.registry.handed → id ∈ s.registry.handed ∨ (id, number) ∈ s.drawn

section Steps

variable {s t : Directory σ δ} {number other caller : Nat} {id : MethodId}
  {entry : MethodEntry σ} {d : ServiceDeclaration σ}

/-! ### Numbers -/

/-- No id is drawn twice. -/
theorem Numbered.nodup (numbered : s.Numbered) : (s.drawn.map (·.1)).Nodup :=
  numbered.falling.imp fun less same => by
    rw [same] at less
    exact Nat.lt_irrefl _ (UInt64.lt_iff_toNat_lt.mp less)

/-- Whose an id is, is clear. -/
theorem Numbered.same (numbered : s.Numbered) (mine : (id, number) ∈ s.drawn)
    (also : (id, other) ∈ s.drawn) : other = number := by
  have nodup := numbered.nodup
  have same := List.inj_on_of_nodup_map nodup also mine rfl
  exact (Prod.mk.inj same).2

/-- The numbers stay right as long as no id is drawn and no method is put in. -/
theorem Numbered.of_same (numbered : s.Numbered) (next : t.registry.nextId = s.registry.nextId)
    (handed : t.registry.handed = s.registry.handed) (drawn : t.drawn = s.drawn) : t.Numbered where
  next := by rw [next, drawn, numbered.next]
  bounded := by
    rw [drawn]
    exact numbered.bounded
  falling := by
    rw [drawn]
    exact numbered.falling
  listed := by
    rw [handed, drawn]
    exact numbered.listed
  distinct := by
    rw [handed]
    exact numbered.distinct

/-- The next id is larger than all that were drawn. -/
theorem Numbered.above (numbered : s.Numbered) (few : s.drawn.length + 1 < UInt64.size - 1)
    {line : MethodId × Nat} (mem : line ∈ s.drawn) :
    line.1.number < (⟨s.registry.nextId⟩ : MethodId).number := by
  have bounded := numbered.bounded line mem
  rw [UInt64.lt_iff_toNat_lt, numbered.next, Registry.toNat_nthId (by omega)]
  omega

/-- The next id is new. -/
theorem Numbered.absent (numbered : s.Numbered) (few : s.drawn.length + 1 < UInt64.size - 1) :
    (⟨s.registry.nextId⟩ : MethodId) ∉ s.registry.handed := by
  intro there
  obtain ⟨owner, mem⟩ := numbered.listed _ there
  exact Nat.lt_irrefl _ (UInt64.lt_iff_toNat_lt.mp (numbered.above few mem))

theorem Numbered.draw (numbered : s.Numbered) (few : s.drawn.length + 1 < UInt64.size - 1)
    (number : Nat) : (s.draw number).2.Numbered where
  next := by
    have same : s.registry.nextId = UInt64.ofNat (s.drawn.length + 1) :=
      congrArg MethodId.number numbered.next
    show (⟨s.registry.nextId + 1⟩ : MethodId) = _
    rw [same, Registry.nthId]
    exact congrArg MethodId.mk (UInt64.ofNat_add (s.drawn.length + 1) 1).symm
  bounded := by
    refine List.forall_mem_cons.mpr ⟨?_, fun line mem => ?_⟩
    · show (⟨s.registry.nextId⟩ : MethodId).number.toNat ≤ s.drawn.length + 1
      exact Nat.le_of_eq (by rw [numbered.next, Registry.toNat_nthId (by omega)])
    · exact Nat.le_succ_of_le (numbered.bounded line mem)
  falling := by
    refine List.pairwise_cons.mpr ⟨fun earlier mem => ?_, numbered.falling⟩
    obtain ⟨line, drawn, rfl⟩ := List.mem_map.mp mem
    exact numbered.above few drawn
  listed id mem := by
    obtain ⟨owner, drawn⟩ := numbered.listed id mem
    exact ⟨owner, List.mem_cons_of_mem _ drawn⟩
  distinct := numbered.distinct

theorem Numbered.insert (numbered : s.Numbered) (absent : id ∉ s.registry.handed)
    (mine : (id, number) ∈ s.drawn) (entry : MethodEntry σ) :
    (s.withRegistry (s.registry.insert id entry)).Numbered where
  next := numbered.next
  bounded := numbered.bounded
  falling := numbered.falling
  listed other mem := by
    have handed : other ∈ (s.registry.insert id entry).handed := mem
    rw [Registry.handed_insert absent, List.mem_append, List.mem_singleton] at handed
    rcases handed with before | rfl
    · exact numbered.listed other before
    · exact ⟨number, mine⟩
  distinct := by
    show (s.registry.insert id entry).handed.Nodup
    rw [Registry.handed_insert absent, List.nodup_append]
    refine ⟨numbered.distinct, List.nodup_singleton id, ?_⟩
    rintro other mem new here rfl
    rw [List.mem_singleton] at here
    exact absent (here ▸ mem)

/-! ### Other registrations -/

namespace Later

theorem drawn_mono (later : Later s t number) {line : MethodId × Nat} (mem : line ∈ s.drawn) :
    line ∈ t.drawn := by
  rcases later.drawn with same | ⟨id, more⟩
  · rwa [same]
  · rw [more]
    exact List.mem_cons_of_mem _ mem

theorem drawn_other (later : Later s t number) (different : other ≠ number)
    (mem : (id, other) ∈ t.drawn) : (id, other) ∈ s.drawn := by
  rcases later.drawn with same | ⟨new, more⟩
  · rwa [same] at mem
  · rw [more] at mem
    rcases List.mem_cons.mp mem with new_line | before
    · cases new_line
      exact absurd rfl different
    · exact before

theorem handed_mono (later : Later s t number) (mem : id ∈ s.registry.handed) :
    id ∈ t.registry.handed := by
  obtain ⟨entry, live, listed⟩ := Registry.mem_handed.mp mem
  obtain ⟨still, kept⟩ := later.kept listed
  exact Registry.mem_handed.mpr ⟨entry, still, kept⟩

theorem filed (later : Later s t number) (filed : s.Filed other id entry) :
    t.Filed other id entry where
  mine := later.drawn_mono filed.mine
  listed := by
    obtain ⟨live, listed⟩ := filed.listed
    exact later.kept listed

theorem filled (later : Later s t number) {done : List (String × MethodId)}
    {records : List (MethodRecord σ)} (filled : s.Filled other d done records) :
    t.Filled other d done records where
  rising := filled.rising
  filed := filled.filed.imp fun _ _ => And.imp_right later.filed

/-- What another registration has drawn and not put in yet, it has still to put in. -/
theorem absent (later : Later s t number) (numbered : s.Numbered) (mine : (id, other) ∈ s.drawn)
    (absent : id ∉ s.registry.handed) (different : other ≠ number) :
    id ∉ t.registry.handed := by
  intro there
  rcases later.new there with before | drawn
  · exact absent before
  · exact different (numbered.same drawn mine)

/-- It does not matter at which stages the registrations are. -/
theorem congr {t' : Directory σ δ} (later : Later s t number) (drawn : t'.drawn = t.drawn)
    (registry : t'.registry = t.registry) : Later s t' number where
  drawn := drawn ▸ later.drawn
  kept := registry ▸ later.kept
  dead := registry ▸ later.dead
  new := registry ▸ later.new

/-- Nothing is new. -/
theorem of_same (drawn : t.drawn = s.drawn) (same : t.registry.listing = s.registry.listing) :
    Later s t number where
  drawn := Or.inl drawn
  kept listed := ⟨_, same ▸ listed⟩
  dead dead := dead.of_listing same
  new there := Or.inl (Registry.handed_of_listing same ▸ there)

theorem of_draw (s : Directory σ δ) (number : Nat) : Later s (s.draw number).2 number where
  drawn := Or.inr ⟨_, rfl⟩
  kept listed := ⟨_, listed⟩
  dead dead := dead.of_listing rfl
  new there := Or.inl there

theorem of_insert (absent : id ∉ s.registry.handed) (mine : (id, number) ∈ s.drawn)
    (entry : MethodEntry σ) : Later s (s.withRegistry (s.registry.insert id entry)) number where
  drawn := Or.inl rfl
  kept {other entry' live} listed := by
    refine ⟨live, ?_⟩
    show (other, entry', live) ∈ (s.registry.insert id entry).listing
    rw [Registry.listing_insert absent]
    exact List.mem_append_left _ listed
  dead dead := dead.insert absent entry
  new {other} there := by
    have handed : other ∈ (s.registry.insert id entry).handed := there
    rw [Registry.handed_insert absent, List.mem_append, List.mem_singleton] at handed
    rcases handed with before | rfl
    · exact Or.inl before
    · exact Or.inr mine

theorem of_remove (s : Directory σ δ) (id : MethodId) (number : Nat) :
    Later s (s.withRegistry (s.registry.remove id)) number where
  drawn := Or.inl rfl
  kept listed := ⟨_, Registry.mem_listing_remove.mpr ⟨_, listed, rfl⟩⟩
  dead dead := dead.remove id
  new {other} there := by
    have handed : other ∈ (s.registry.remove id).handed := there
    rw [Registry.handed_remove] at handed
    exact Or.inl handed

end Later

/-- A step of one registration leaves the others as they are. -/
theorem Fits.later {registration : Registration σ} (fits : s.Fits other registration)
    (later : Later s t number) (numbered : s.Numbered) (different : other ≠ number) :
    t.Fits other registration := by
  have draws {ids : List MethodId} (draws : s.Draws other ids) : t.Draws other ids :=
    fun mem => draws (later.drawn_other different mem)
  cases fits with
  | drawn mine absent =>
      exact .drawn (later.drawn_mono mine) (later.absent numbered mine absent different)
  | placed filed => exact .placed (later.filed filed)
  | adding split distinct filled only =>
      exact .adding split distinct (later.filled filled) (draws only)
  | placing split distinct filled mine absent above only =>
      exact .placing split distinct (later.filled filled) (later.drawn_mono mine)
        (later.absent numbered mine absent different) above (draws only)
  | validating distinct filled only =>
      exact .validating distinct (later.filled filled) (draws only)
  | awaiting distinct filled only => exact .awaiting distinct (later.filled filled) (draws only)
  | removing mine gone =>
      refine .removing (fun id mem => (mine id mem).imp later.drawn_mono later.handed_mono) ?_
      exact fun id mem => (gone id (later.drawn_other different mem)).imp_right later.dead
  | returned distinct filled => exact .returned distinct (later.filled filled)
  | refused gone =>
      exact .refused fun id mem => later.dead (gone id (later.drawn_other different mem))
  | panicked => exact .panicked

/-- What goes with a stage is a matter of the ids and of the listing. -/
theorem Fits.of_same {registration : Registration σ} (fits : s.Fits number registration)
    (numbered : s.Numbered) (drawn : t.drawn = s.drawn)
    (same : t.registry.listing = s.registry.listing) : t.Fits number registration :=
  fits.later (.of_same drawn same) numbered (Nat.ne_of_lt (Nat.lt_succ_self number))

/-! ### The registration that goes on -/

theorem Filed.of_insert (mine : (id, number) ∈ s.drawn) (absent : id ∉ s.registry.handed)
    (entry : MethodEntry σ) :
    (s.withRegistry (s.registry.insert id entry)).Filed number id entry where
  mine := mine
  listed := by
    refine ⟨true, ?_⟩
    show _ ∈ (s.registry.insert id entry).listing
    rw [Registry.listing_insert absent]
    exact List.mem_append_right _ (List.mem_singleton_self _)

theorem Filled.nil : s.Filled number d [] [] := ⟨.nil, .nil⟩

theorem Filled.append {done : List (String × MethodId)} {records : List (MethodRecord σ)}
    {record : MethodRecord σ} (filled : s.Filled number d done records)
    (filed : s.Filed number id (d.entryOf record))
    (above : ∀ line ∈ done, line.2.number < id.number) :
    s.Filled number d (done ++ [(record.name, id)]) (records ++ [record]) where
  rising := by
    rw [List.map_append, List.pairwise_append]
    refine ⟨filled.rising, List.pairwise_singleton _ _, fun earlier mem last here => ?_⟩
    obtain ⟨line, there, rfl⟩ := List.mem_map.mp mem
    obtain rfl := List.mem_singleton.mp here
    exact above line there
  filed := List.rel_append filled.filed (.cons ⟨rfl, filed⟩ .nil)

/-- The ids of the methods that are in were drawn by this registration. -/
theorem Filled.mine {done : List (String × MethodId)} {records : List (MethodRecord σ)}
    (filled : s.Filled number d done records) {line : String × MethodId} (mem : line ∈ done) :
    (line.2, number) ∈ s.drawn ∧ line.2 ∈ s.registry.handed := by
  obtain ⟨rising, filed⟩ := filled
  clear rising
  induction filed with
  | nil => cases mem
  | cons head _ ih =>
      rcases List.mem_cons.mp mem with rfl | mem
      · obtain ⟨live, listed⟩ := head.2.listed
        exact ⟨head.2.mine, Registry.mem_handed.mpr ⟨_, live, listed⟩⟩
      · exact ih mem

variable {stage next : ServiceStage σ}

theorem Proceeds.few (proceeds : Proceeds s number caller d stage next t) (few : t.Few) :
    s.Few := by
  cases proceeds with
  | draws => exact Nat.lt_of_succ_lt few
  | _ => exact few

theorem Proceeds.numbered (proceeds : Proceeds s number caller d stage next t)
    (numbered : s.Numbered) (fits : s.Fits number (.service caller d stage)) (few : t.Few) :
    t.Numbered := by
  cases proceeds with
  | draws => exact numbered.draw few number
  | places =>
      cases fits with
      | placing _ _ _ mine absent _ _ => exact numbered.insert absent mine _
  | resolves same => exact numbered.of_same (congrArg _ same) (congrArg _ same) rfl
  | removes => exact numbered.of_same rfl (Registry.handed_remove _ _) rfl
  | _ => exact numbered

theorem Proceeds.later (proceeds : Proceeds s number caller d stage next t)
    (fits : s.Fits number (.service caller d stage)) : Later s t number := by
  cases proceeds with
  | draws => exact .of_draw s number
  | places =>
      cases fits with
      | placing _ _ _ mine absent _ _ => exact .of_insert absent mine _
  | resolves same => exact .of_same rfl (congrArg Registry.listing same)
  | removes => exact .of_remove s _ number
  | _ => exact .of_same rfl rfl

/-- The registration is right at its next stage. -/
theorem Proceeds.fits (proceeds : Proceeds s number caller d stage next t)
    (numbered : s.Numbered) (fits : s.Fits number (.service caller d stage)) (few : t.Few) :
    t.Fits number (.service caller d next) := by
  have later := proceeds.later fits
  cases proceeds with
  | added lazily =>
      cases fits with
      | adding split distinct filled _ =>
          rw [List.append_nil] at split
          subst split
          exact .returned distinct filled
  | validates eagerly =>
      cases fits with
      | adding split distinct filled draws =>
          rw [List.append_nil] at split
          subst split
          exact .validating distinct filled draws
  | draws =>
      cases fits with
      | adding split distinct filled draws =>
          refine .placing split distinct (later.filled filled) List.mem_cons_self
            (numbered.absent few) (fun line mem => ?_) (fun mem => ?_)
          · exact numbered.above few (filled.mine mem).1
          · rcases List.mem_cons.mp mem with new_line | before
            · cases new_line
              exact List.mem_cons_self
            · exact List.mem_cons_of_mem _ (draws before)
  | @places done id record rest =>
      cases fits with
      | placing split distinct filled mine absent above draws =>
          have filed := Filed.of_insert mine absent (d.entryOf record)
          refine .adding ?_ distinct ((later.filled filled).append filed above) fun mem => ?_
          · rw [List.append_assoc]
            exact split
          · rw [List.map_append, List.mem_append]
            exact (List.mem_cons.mp (draws mem)).symm.imp_right List.mem_singleton.mpr
  | returns =>
      cases fits with
      | validating distinct filled _ => exact .returned distinct filled
  | resolves _ =>
      cases fits with
      | validating distinct filled draws => exact .awaiting distinct (later.filled filled) draws
  | built =>
      cases fits with
      | awaiting distinct filled draws => exact .validating distinct filled draws
  | fails =>
      cases fits with
      | awaiting distinct filled draws =>
          refine .removing (fun id mem => ?_) fun id mem => Or.inl (draws mem)
          obtain ⟨line, there, rfl⟩ := List.mem_map.mp mem
          exact filled.mine there
  | panics => exact .panicked
  | refuses =>
      cases fits with
      | removing _ gone => exact .refused fun id mem => (gone id mem).resolve_left List.not_mem_nil
  | @removes id rest error =>
      cases fits with
      | removing mine gone =>
          refine .removing (fun other mem => ?_) fun other mem => ?_
          · exact (mine other (List.mem_cons_of_mem _ mem)).imp later.drawn_mono later.handed_mono
          · rcases gone other mem with still | dead
            · rcases List.mem_cons.mp still with rfl | still
              · exact Or.inr (Registry.dead_of_remove (mine _ List.mem_cons_self).2)
              · exact Or.inl still
            · exact Or.inr (later.dead dead)

/-! ### Directories -/

variable {label : DirectoryStep σ δ} {registration : Registration σ}

/-- What goes with the stages of all registrations, when one more has begun. -/
theorem Sound.fits_append {found : Registration σ} (sound : s.Sound)
    (later : Later s t s.work.length) (work : t.work = s.work ++ [registration])
    (own : t.Fits s.work.length registration) (there : t.work[other]? = some found) :
    t.Fits other found := by
  rw [work] at there
  by_cases old : other < s.work.length
  · rw [List.getElem?_append_left old] at there
    exact (sound.fits there).later later sound.numbered (Nat.ne_of_lt old)
  · rw [List.getElem?_append_right (Nat.le_of_not_lt old), List.getElem?_singleton] at there
    split at there
    · obtain rfl : other = s.work.length := by omega
      cases there
      exact own
    · cases there

/-- What goes with the stages of all registrations, when one has gone on. -/
theorem Sound.fits_set {found : Registration σ} (sound : s.Sound) (later : Later s t number)
    (work : t.work = s.work.set number registration) (own : t.Fits number registration)
    (there : t.work[other]? = some found) : t.Fits other found := by
  rw [work] at there
  by_cases same : other = number
  · subst same
    obtain ⟨bound, here⟩ := List.getElem?_eq_some_iff.mp there
    rw [List.getElem_set_self] at here
    rw [← here]
    exact own
  · rw [List.getElem?_set_ne (Ne.symm same)] at there
    exact (sound.fits there).later later sound.numbered same

theorem Proceeds.work_eq (proceeds : Proceeds s number caller d stage next t) :
    t.work = s.work := by
  cases proceeds <;> rfl

theorem Move.few (move : Move s label t) (few : t.Few) : s.Few := by
  cases move with
  | add => exact Nat.lt_of_succ_lt few
  | proceed _ proceeds => exact proceeds.few few
  | _ => exact few

theorem Move.numbered (move : Move s label t) (sound : s.Sound) (few : t.Few) : t.Numbered := by
  have numbered := sound.numbered
  cases move with
  | race committed _ =>
      have handed := Registry.handed_of_listing committed.listing_eq
      exact numbered.of_same committed.nextId_eq handed rfl
  | remove => exact numbered.of_same rfl (Registry.handed_remove _ _) rfl
  | add => exact (numbered.draw few s.work.length).of_same rfl rfl rfl
  | reject _ => exact numbered.of_same rfl rfl rfl
  | register _ => exact numbered.of_same rfl rfl rfl
  | place there =>
      cases sound.fits there with
      | drawn mine absent => exact (numbered.insert absent mine _).of_same rfl rfl rfl
  | proceed there proceeds =>
      exact (proceeds.numbered numbered (sound.fits there) few).of_same rfl rfl rfl

theorem Proceeds.owned (proceeds : Proceeds s number caller d stage next t)
    (there : number < s.work.length) (owned : ∀ line ∈ s.drawn, line.2 < s.work.length) :
    ∀ line ∈ t.drawn, line.2 < s.work.length := by
  cases proceeds with
  | draws => exact List.forall_mem_cons.mpr ⟨there, owned⟩
  | _ => exact owned

theorem Move.owned (move : Move s label t) (owned : ∀ line ∈ s.drawn, line.2 < s.work.length) :
    ∀ line ∈ t.drawn, line.2 < t.work.length := by
  have longer : ∀ registration : Registration σ,
      s.work.length < (s.work ++ [registration]).length := fun registration => by
    rw [List.length_append]
    exact Nat.lt_succ_self _
  cases move with
  | race _ _ => exact owned
  | remove => exact owned
  | add =>
      exact List.forall_mem_cons.mpr
        ⟨longer _, fun line mem => Nat.lt_trans (owned line mem) (longer _)⟩
  | reject _ => exact fun line mem => Nat.lt_trans (owned line mem) (longer _)
  | register _ => exact fun line mem => Nat.lt_trans (owned line mem) (longer _)
  | place _ => exact fun line mem => lt_of_lt_of_eq (owned line mem) List.length_set.symm
  | @proceed number caller d _ next after there proceeds =>
      intro line mem
      have bound := (List.getElem?_eq_some_iff.mp there).1
      rw [put, List.length_set, proceeds.work_eq]
      exact proceeds.owned bound owned line mem

/-- A registration that begins has drawn nothing yet. -/
theorem Sound.draws_nothing (sound : s.Sound) : s.Draws s.work.length [] :=
  fun mem => absurd (sound.owned _ mem) (Nat.lt_irrefl _)

/-- Every step keeps a directory sound as long as the ids last. -/
theorem Move.sound (move : Move s label t) (sound : s.Sound) (few : t.Few) : t.Sound := by
  have numbered := sound.numbered
  refine ⟨move.numbered sound few, move.owned sound.owned, ?_⟩
  cases move with
  | race committed _ =>
      intro number registration there
      exact (sound.fits there).of_same numbered rfl committed.listing_eq
  | @remove id =>
      intro number registration there
      exact (sound.fits there).later (.of_remove s id (number + 1)) numbered
        (Nat.ne_of_lt (Nat.lt_succ_self number))
  | add =>
      intro other found there
      exact sound.fits_append ((Later.of_draw s s.work.length).congr rfl rfl) rfl
        (.drawn List.mem_cons_self (numbered.absent few)) there
  | reject _ =>
      intro other found there
      exact sound.fits_append (.of_same rfl rfl) rfl
        (.refused fun id mem => absurd (sound.draws_nothing mem) List.not_mem_nil) there
  | register once =>
      have distinct := (Engine.duplicate?_eq_none.mp once).1
      intro other found there
      exact sound.fits_append (.of_same rfl rfl) rfl
        (.adding rfl distinct .nil sound.draws_nothing) there
  | @place number entry id there =>
      cases sound.fits there with
      | drawn mine absent =>
          intro other found there
          have filed := Filed.of_insert mine absent entry
          exact sound.fits_set ((Later.of_insert absent mine entry).congr rfl rfl) rfl
            (.placed ⟨filed.mine, filed.listed⟩) there
  | @proceed number caller d _ next after there proceeds =>
      have later := proceeds.later (sound.fits there)
      have own := proceeds.fits numbered (sound.fits there) few
      have still := own.of_same (t := after.put number (.service caller d next))
        (proceeds.numbered numbered (sound.fits there) few) rfl rfl
      intro other found now
      refine sound.fits_set (later.congr rfl rfl) ?_ still now
      rw [put, proceeds.work_eq]

end Steps

end Directory

end RemoteCall
