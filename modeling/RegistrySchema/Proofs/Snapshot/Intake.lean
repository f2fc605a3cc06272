import RegistrySchema.Proofs.Catalog
import RegistrySchema.Proofs.Fallible
import RegistrySchema.Proofs.Snapshot.Entities

/-!
# Loading entity kinds one by one

A snapshot can also be loaded in one pass over its entities. Each of them is turned into an entry at
once, a separate list keeps for each kind the place of its entry, and an entity whose kind is in
that list already stops the pass, after the class of its object was looked up. This ends in the
same way (`ofDeclarations_eq_map`), and the list of places leads to the entry that a search for the
kind would find (`exists_intake_of_ofDeclarations`), for it never gets out of step with the entries.
-/

namespace RegistrySchema.Snapshot

/-- What has been loaded of the entity kinds. -/
structure Intake where
  /-- The classes so far. -/
  classes : ClassGraph
  /-- The entries so far. -/
  entries : List EntityEntry
  /-- For each kind the place of its entry. -/
  places : Catalog Identifier Nat

namespace Intake

/-- Nothing loaded yet, with the declared classes. -/
def start (classes : ClassGraph) : Intake := ⟨classes, [], Catalog.empty⟩

/-- Load one entity. The class of its object is looked up even if the kind is a repetition. -/
def add (intake : Intake) (entity : DeclaredEntity) : Except LoadError Intake :=
  let (classes, found) := outcome intake.classes entity
  if intake.places.contains entity.id then .error (.duplicateEntity entity.id)
  else
    .ok { classes
          entries := intake.entries ++ [⟨entity.id, found⟩]
          places := intake.places.insert entity.id intake.entries.length }

/-- Load what is declared, the blocks being compared first. -/
def ofDeclarations (declared : Declarations) : Except LoadError Intake :=
  match firstRepeat? [] (declared.blocks.map DeclaredBlock.id) with
  | some id => .error (.duplicateBlock id)
  | none => declared.entities.foldlM add (start (declareClasses declared.root declared.classes))

/-- The entry at the place that is kept for a kind. -/
def placed? (intake : Intake) (kind : Identifier) : Option EntityEntry := do
  let place ← intake.places.get? kind
  intake.entries[place]?

/-- The places are those of the entries, in step with them. -/
def Aligned (intake : Intake) : Prop :=
  intake.places.entries = (intake.entries.map EntityEntry.kind).zipIdx

variable {intake next : Intake}

theorem keys_start (classes : ClassGraph) : (start classes).places.keys = [] := rfl

theorem aligned_start (classes : ClassGraph) : (start classes).Aligned := rfl

theorem keys_of_aligned (h : intake.Aligned) :
    intake.places.keys = intake.entries.map EntityEntry.kind := by
  rw [Catalog.keys, h, List.zipIdx_map_fst]

/-- An entity is loaded if its kind is new. -/
theorem add_eq_ok_iff {entity : DeclaredEntity} :
    intake.add entity = .ok next ↔ entity.id ∉ intake.places.keys ∧
      next = ⟨(outcome intake.classes entity).1,
        intake.entries ++ [⟨entity.id, (outcome intake.classes entity).2⟩],
        intake.places.insert entity.id intake.entries.length⟩ := by
  simp only [add, Catalog.contains, decide_eq_true_eq]
  split
  · next hknown => simp [hknown]
  · next hnew => simp [hnew, eq_comm]

/-- A new kind gets the place of its entry. -/
theorem aligned_add {entity : DeclaredEntity} (h : intake.Aligned)
    (hadd : intake.add entity = .ok next) : next.Aligned := by
  obtain ⟨hnew, rfl⟩ := add_eq_ok_iff.1 hadd
  rw [Aligned, Catalog.entries_insert_of_not_mem _ hnew, h]
  simp [List.zipIdx_append]

theorem aligned_ofDeclarations {declared : Declarations}
    (h : ofDeclarations declared = .ok intake) : intake.Aligned := by
  unfold ofDeclarations at h
  split at h
  · cases h
  · exact foldlM_invariant (I := Aligned) (fun _ _ _ => aligned_add) (aligned_start _) h

/-- The place that is kept for a kind is that of the entry of this kind. -/
theorem placed?_eq_find? (h : intake.Aligned) (kind : Identifier) :
    intake.placed? kind = intake.entries.find? fun entry => entry.kind = kind := by
  cases hfind : intake.entries.find? fun entry => entry.kind = kind with
  | some entry =>
    have hkind : entry.kind = kind := by simpa using List.find?_some hfind
    obtain ⟨place, hplace⟩ := List.mem_iff_getElem?.1 (List.mem_of_find?_eq_some hfind)
    have hget : intake.places.get? kind = some place := by
      rw [Catalog.get?_eq_some_iff, h, List.mem_zipIdx_iff_getElem?, List.getElem?_map, hplace]
      exact congrArg some hkind
    rw [placed?, hget]
    exact hplace
  | none =>
    have hkind : kind ∉ intake.places.keys := by
      rw [keys_of_aligned h]
      intro hmem
      obtain ⟨entry, hentry, rfl⟩ := List.mem_map.1 hmem
      exact List.find?_eq_none.1 hfind entry hentry (decide_eq_true rfl)
    have hget : intake.places.get? kind = none :=
      Option.not_isSome_iff_eq_none.1 (mt Catalog.get?_isSome_iff.1 hkind)
    rw [placed?, hget]
    rfl

/-- A pass over entities ends at the first repeated kind, or with the entries that the entities
have. -/
theorem map_foldlM_add (intake : Intake) (entities : List DeclaredEntity) :
    (entities.foldlM add intake).map (fun last => (last.classes, last.entries)) =
      match firstRepeat? intake.places.keys (entities.map DeclaredEntity.id) with
      | some id => .error (.duplicateEntity id)
      | none => .ok ((declareEntities intake.classes entities).1,
          intake.entries ++ (declareEntities intake.classes entities).2) := by
  induction entities generalizing intake with
  | nil => simp [firstRepeat?, declareEntities, Except.map, pure, Except.pure]
  | cons entity entities ih =>
    rw [List.foldlM_cons, List.map_cons, firstRepeat?]
    by_cases hknown : entity.id ∈ intake.places.keys
    · have hstop : intake.add entity = .error (.duplicateEntity entity.id) := by
        simp [add, Catalog.contains, hknown]
      rw [hstop, if_pos hknown]
      rfl
    · -- The new kind stands last among the places, and first among what a search has seen.
      have hseen : ∀ kind, kind ∈ (intake.places.insert entity.id intake.entries.length).keys ↔
          kind ∈ entity.id :: intake.places.keys := by
        intro kind
        rw [Catalog.mem_keys_insert, List.mem_cons, or_comm]
      rw [if_neg hknown, add_eq_ok_iff.2 ⟨hknown, rfl⟩, ← firstRepeat?_congr hseen,
        declareEntities_cons]
      have hrest := ih ⟨(outcome intake.classes entity).1,
        intake.entries ++ [⟨entity.id, (outcome intake.classes entity).2⟩],
        intake.places.insert entity.id intake.entries.length⟩
      simp only [List.append_assoc, List.singleton_append] at hrest
      exact hrest

end Intake

/-- Loading in one pass makes the same snapshot, or is refused for the same. -/
theorem ofDeclarations_eq_map (declared : Declarations) :
    ofDeclarations declared = (Intake.ofDeclarations declared).map fun intake =>
      ⟨declared.blocks.map DeclaredBlock.entry, intake.entries, intake.classes⟩ := by
  unfold ofDeclarations Intake.ofDeclarations
  cases firstRepeat? [] (declared.blocks.map DeclaredBlock.id) with
  | some id => rfl
  | none =>
    have hparts : ∀ loaded : Except LoadError Intake,
        (loaded.map fun intake => (⟨declared.blocks.map DeclaredBlock.entry, intake.entries,
            intake.classes⟩ : Snapshot)) =
          (loaded.map fun intake => (intake.classes, intake.entries)).map fun parts =>
            ⟨declared.blocks.map DeclaredBlock.entry, parts.2, parts.1⟩ := by
      intro loaded
      cases loaded <;> rfl
    dsimp only
    rw [hparts, Intake.map_foldlM_add, Intake.keys_start]
    cases firstRepeat? [] (declared.entities.map DeclaredEntity.id) <;> rfl

/-- Behind each snapshot is a pass that ended with its entries and classes. The places that the pass
kept are those of the declared kinds, and they lead to the entries that the factory of the snapshot
looks for. -/
theorem exists_intake_of_ofDeclarations {declared : Declarations} {snapshot : Snapshot}
    (h : ofDeclarations declared = .ok snapshot) :
    ∃ intake, Intake.ofDeclarations declared = .ok intake ∧
      snapshot.entities = intake.entries ∧ snapshot.classes = intake.classes ∧
      intake.places.entries = (declared.entities.map DeclaredEntity.id).zipIdx ∧
      ∀ kind : Identifier,
        snapshot.entities.find? (fun entry => entry.kind = kind) = intake.placed? kind := by
  have hkinds := kinds_ofDeclarations h
  -- The snapshot is what the pass leaves, with the map of the places left out.
  rw [ofDeclarations_eq_map] at h
  obtain ⟨intake, hintake, rfl⟩ := map_eq_ok_iff.1 h
  have haligned := Intake.aligned_ofDeclarations hintake
  refine ⟨intake, hintake, rfl, rfl, ?_, fun kind => ?_⟩
  · rw [haligned, ← hkinds]
  · exact (Intake.placed?_eq_find? haligned kind).symm

end RegistrySchema.Snapshot
