import RegistrySchema.Proofs.Bisimulation
import RegistrySchema.Proofs.Snapshot.Links

/-!
# The entities of a snapshot

A snapshot keeps the class of an entity as a handle. By names, its registry and its factory are
what was declared: an entity is handed out unless it is withheld, and the factory answers with the
declared failure, with an object of the class that was named, or with no object.
-/

namespace RegistrySchema.Snapshot

open ClassGraph

/-- The registry entry of an entity kind. -/
def DeclaredEntity.entry (entity : DeclaredEntity) : Except AccessError Identifier :=
  if entity.inaccessible then .error ⟨entity.id.text, "field is not an entity type"⟩
  else .ok entity.id

/-- The factory's answer for an entity kind, with the class by name. -/
def DeclaredEntity.answer (entity : DeclaredEntity) : Except SpawnError (Option String) :=
  if entity.inaccessible then .error ⟨.access, entity.id⟩
  else
    match entity.failure with
    | some failure => .error ⟨failure, entity.id⟩
    | none => .ok entity.className

theorem DeclaredEntity.entry_eq_ok_iff {entity : DeclaredEntity} {kind : Identifier} :
    entity.entry = .ok kind ↔ entity.inaccessible = false ∧ entity.id = kind := by
  unfold DeclaredEntity.entry
  split
  · next h => simp [h]
  · next h => simp [h]

/-- An object is made of an entity that is open, has no failure and names a class. -/
theorem DeclaredEntity.answer_eq_ok_some_iff {entity : DeclaredEntity} {name : String} :
    entity.answer = .ok (some name) ↔
      entity.inaccessible = false ∧ entity.failure = none ∧ entity.className = some name := by
  unfold DeclaredEntity.answer
  split
  · next h => simp [h]
  · next h => cases hfailure : entity.failure <;> simp [h]

/-- What an outcome means for the factory, with the class by name. -/
def ClassGraph.answerOf (graph : ClassGraph) (kind : Identifier) :
    Outcome → Except SpawnError (Option String)
  | .made id => .ok (graph.name? id)
  | .empty => .ok none
  | .fails failure => .error ⟨failure, kind⟩
  | .inaccessible => .error ⟨.access, kind⟩

/-- An entity and the entry that is made for it, with the handles of a graph. -/
structure EntryFor (graph : ClassGraph) (entity : DeclaredEntity) (entry : EntityEntry) : Prop where
  /-- The kind is kept. -/
  kind : entry.kind = entity.id
  /-- The entry is withheld if the entity is. -/
  inaccessible : entry.outcome = .inaccessible ↔ entity.inaccessible = true
  /-- The factory answers as declared. -/
  answer : graph.answerOf entity.id entry.outcome = entity.answer

/-- The outcome of an entity is as declared, whatever is added to the graph later. -/
theorem entryFor_outcome {graph later : ClassGraph} (hs : graph.Sound) (entity : DeclaredEntity)
    (h : (outcome graph entity).1.names <+: later.names) :
    EntryFor later entity ⟨entity.id, (outcome graph entity).2⟩ := by
  refine ⟨rfl, ?_, ?_⟩
  · unfold outcome
    split
    · next hwithheld => exact iff_of_true rfl hwithheld
    · next hopen => split <;> exact iff_of_false (by simp) hopen
  · unfold outcome at h ⊢
    unfold DeclaredEntity.answer
    split
    · rfl
    · next hopen =>
      rw [if_neg hopen] at h
      cases hfailure : entity.failure with
      | some failure => rfl
      | none =>
        rw [hfailure] at h
        cases hclass : entity.className with
        | none => rfl
        | some name =>
          rw [hclass] at h
          exact congrArg Except.ok (name?_eq_some_of_isPrefix h (name?_intern hs name))

theorem forall₂_declareEntities {graph : ClassGraph} (hs : graph.Sound)
    (entities : List DeclaredEntity) {later : ClassGraph}
    (h : (declareEntities graph entities).1.names <+: later.names) :
    List.Forall₂ (EntryFor later) entities (declareEntities graph entities).2 := by
  induction entities generalizing graph with
  | nil => exact List.Forall₂.nil
  | cons entity entities ih =>
    -- The first entry is made in a graph that the other entities add to, which keeps its names.
    have hfirst := extends_outcome hs entity
    have hrest := extends_declareEntities hfirst.sound entities
    rw [declareEntities_cons] at h ⊢
    exact List.Forall₂.cons (entryFor_outcome hs entity (hrest.names.trans h)) (ih hfirst.sound h)

theorem forall₂_ofDeclarations {declared : Declarations} {snapshot : Snapshot}
    (h : ofDeclarations declared = .ok snapshot) :
    List.Forall₂ (EntryFor snapshot.classes) declared.entities snapshot.entities := by
  obtain ⟨-, -, rfl⟩ := ofDeclarations_eq_ok_iff.1 h
  exact forall₂_declareEntities (declareClasses_spec _ _).1 _ (List.prefix_refl _)

/-- There is an entry for each entity kind, in order. -/
theorem kinds_ofDeclarations {declared : Declarations} {snapshot : Snapshot}
    (h : ofDeclarations declared = .ok snapshot) :
    snapshot.entities.map EntityEntry.kind = declared.entities.map DeclaredEntity.id :=
  (map_eq_map_of_forall₂ (forall₂_ofDeclarations h) fun _ _ hentry => hentry.kind.symm).symm

/-- The registry of a snapshot hands out the entities that are not withheld. -/
theorem entityRegistry_ofDeclarations {declared : Declarations} {snapshot : Snapshot}
    (h : ofDeclarations declared = .ok snapshot) :
    snapshot.entityRegistry = declared.entities.map DeclaredEntity.entry := by
  refine (map_eq_map_of_forall₂ (forall₂_ofDeclarations h) fun entity entry hentry => ?_).symm
  rw [DeclaredEntity.entry, hentry.kind]
  by_cases hwithheld : entity.inaccessible = true
  · rw [if_pos hwithheld, hentry.inaccessible.2 hwithheld]
  · rw [if_neg hwithheld]
    split
    · next hout => exact absurd (hentry.inaccessible.1 hout) hwithheld
    · rfl

/-- The factory of a snapshot answers for an entity as declared. -/
theorem factory_ofDeclarations {declared : Declarations} {snapshot : Snapshot}
    (h : ofDeclarations declared = .ok snapshot) {entity : DeclaredEntity}
    (hentity : entity ∈ declared.entities) (world : Identifier) :
    (snapshot.factory entity.id world).map (Option.map snapshot.classes.types.name) =
      entity.answer := by
  have hentries := forall₂_ofDeclarations h
  have hnodup : (snapshot.entities.map EntityEntry.kind).Nodup := by
    rw [kinds_ofDeclarations h]
    exact (ofDeclarations_eq_ok_iff.1 h).2.1
  obtain ⟨⟨kind, outcome⟩, hmem, hentry⟩ := exists_mem_of_forall₂ hentries.flip hentity
  -- Kinds are distinct, so the search for the kind ends at the entry of this entity.
  have hfind : snapshot.entities.find? (fun other => other.kind = entity.id) =
      some ⟨kind, outcome⟩ := by
    have hkind := find?_eq_some_of_nodup_map EntityEntry.kind hnodup hmem
    rwa [hentry.kind] at hkind
  rw [← hentry.answer, Snapshot.factory, create, hfind]
  cases outcome with
  | made id => exact congrArg Except.ok (snapshot.classes.map_name_position? id)
  | empty => rfl
  | fails failure => rfl
  | inaccessible => rfl

/-- The factory makes an object of the type that has the name of the declared class. -/
theorem factory_eq_ok_some_iff {declared : Declarations} {snapshot : Snapshot}
    (h : ofDeclarations declared = .ok snapshot) {entity : DeclaredEntity}
    (hentity : entity ∈ declared.entities) (world : Identifier) {t : Fin snapshot.classes.size} :
    snapshot.factory entity.id world = .ok (some t) ↔
      entity.answer = .ok (some (snapshot.classes.types.name t)) := by
  rw [← factory_ofDeclarations h hentity world]
  constructor
  · intro hanswer
    rw [hanswer]
    rfl
  · intro hname
    cases hanswer : snapshot.factory entity.id world with
    | error err =>
      rw [hanswer] at hname
      cases hname
    | ok found =>
      rw [hanswer] at hname
      obtain ⟨s, rfl, hs⟩ := Option.map_eq_some_iff.1 (Except.ok.inj hname)
      rw [(realizes_ofDeclarations h).injective hs]

end RegistrySchema.Snapshot
