import RegistrySchema.Proofs.Fallible
import RegistrySchema.Proofs.Identifier
import RegistrySchema.Proofs.Snapshot.HandleRun
import RegistrySchema.Proofs.Snapshot.Intake

/-!
# The kinds of a snapshot

Which declarations make a snapshot, what the others are refused for, and what can be asked about
the kinds of a snapshot that was made: both registries have an entry for each declaration, in
order, and the factory answers for a kind with what was declared of it (`create_ofDeclarations`).
A kind that was not declared is refused (`create_eq_error_of_not_mem`). The entry that the factory
looks for is also the one at the place that loading has kept for the kind.
-/

namespace RegistrySchema.Snapshot

open ClassGraph

/-- An entry of the block registry is a failure exactly if the block is withheld. -/
theorem DeclaredBlock.exists_entry_eq_error_iff {block : DeclaredBlock} :
    (∃ err, block.entry = .error err) ↔ block.inaccessible = true := by
  unfold DeclaredBlock.entry
  split
  · next h => simp [h]
  · next h => simp [h]

/-- An entry of the entity registry is a failure exactly if the entity is withheld. -/
theorem DeclaredEntity.exists_entry_eq_error_iff {entity : DeclaredEntity} :
    (∃ err, entity.entry = .error err) ↔ entity.inaccessible = true := by
  unfold DeclaredEntity.entry
  split
  · next h => simp [h]
  · next h => simp [h]

/-- The handle of a type has the name of the type. -/
theorem ClassGraph.name?_handle {graph : ClassGraph} (t : Fin graph.size) :
    graph.name? (handle t) = some (graph.types.name t) := by
  rw [name?_eq]
  exact graph.getElem?_names t

variable {declared : Declarations} {snapshot : Snapshot}

/-- The factory answers for a declared kind with what was declared of it, the handle of an object's
class having the name that was declared. -/
theorem create_ofDeclarations (h : ofDeclarations declared = .ok snapshot)
    {entity : DeclaredEntity} (hentity : entity ∈ declared.entities) :
    (snapshot.create entity.id).map (Option.map snapshot.classes.name?) =
      entity.answer.map (Option.map some) := by
  -- The world does not matter to this factory.
  rw [← factory_ofDeclarations h hentity entity.id, create_eq_map_factory h entity.id entity.id]
  cases snapshot.factory entity.id entity.id with
  | error err => rfl
  | ok t? =>
    cases t? with
    | none => rfl
    | some t => exact congrArg (Except.ok ∘ some) (name?_handle t)

/-- The factory refuses a kind that was not declared. -/
theorem create_eq_error_of_not_mem (h : ofDeclarations declared = .ok snapshot)
    {kind : Identifier} (hkind : kind ∉ declared.entities.map DeclaredEntity.id) :
    snapshot.create kind = .error ⟨.access, kind⟩ := by
  have hnone : snapshot.entities.find? (fun entry => entry.kind = kind) = none := by
    rw [← kinds_ofDeclarations h] at hkind
    refine List.find?_eq_none.2 fun entry hentry hsame => hkind ?_
    exact List.mem_map.2 ⟨entry, hentry, of_decide_eq_true hsame⟩
  rw [create, hnone]

/-- Declarations are refused exactly if a block kind or an entity kind is declared twice, withheld
or not, and what they are refused for is the earliest repeated block kind or, without one, the
earliest repeated entity kind. Kinds are the same if their texts are, with the default namespace
put in. Loading the entities one by one, with a map of the places of the kinds, ends in the same way.

Otherwise the registries have an entry for each declaration in order: an open block with its
identifier and its properties, an open entity with its identifier, and a failure that names the
kind for what is withheld. The factory answers for each declared kind as declared and refuses all
others, and the entry that it looks for is the one at the place that the map has for the kind. -/
theorem ofDeclarations_spec (declared : Declarations) :
    ((∃ err, ofDeclarations declared = .error err) ↔
        ¬ (declared.blocks.map DeclaredBlock.id).Nodup ∨
          ¬ (declared.entities.map DeclaredEntity.id).Nodup) ∧
      (∀ err, ofDeclarations declared = .error err ↔
        (∃ id, EarliestRepeat (declared.blocks.map DeclaredBlock.id) id ∧
          err = .duplicateBlock id) ∨
        (declared.blocks.map DeclaredBlock.id).Nodup ∧
          ∃ id, EarliestRepeat (declared.entities.map DeclaredEntity.id) id ∧
            err = .duplicateEntity id) ∧
      (∀ s t, Identifier.parse s = Identifier.parse t ↔
        Identifier.completed s = Identifier.completed t) ∧
      (ofDeclarations declared = (Intake.ofDeclarations declared).map fun intake =>
        ⟨declared.blocks.map DeclaredBlock.entry, intake.entries, intake.classes⟩) ∧
      ∀ snapshot, ofDeclarations declared = .ok snapshot →
        ((snapshot.blocks = declared.blocks.map fun block =>
            if block.inaccessible then .error ⟨block.id.text, "field is not a block"⟩
            else .ok ⟨block.id, block.properties⟩) ∧
          ∀ block ∈ declared.blocks,
            (∃ err, block.entry = .error err) ↔ block.inaccessible = true) ∧
        ((snapshot.entityRegistry = declared.entities.map fun entity =>
            if entity.inaccessible then .error ⟨entity.id.text, "field is not an entity type"⟩
            else .ok entity.id) ∧
          ∀ entity ∈ declared.entities,
            (∃ err, entity.entry = .error err) ↔ entity.inaccessible = true) ∧
        (∀ entity ∈ declared.entities,
          (snapshot.create entity.id).map (Option.map snapshot.classes.name?) =
            entity.answer.map (Option.map some)) ∧
        (∀ kind ∉ declared.entities.map DeclaredEntity.id,
          snapshot.create kind = .error ⟨.access, kind⟩) ∧
        ∃ intake, Intake.ofDeclarations declared = .ok intake ∧
          snapshot.entities = intake.entries ∧ snapshot.classes = intake.classes ∧
          intake.places.entries = (declared.entities.map DeclaredEntity.id).zipIdx ∧
          ∀ kind : Identifier,
            snapshot.entities.find? (fun entry => entry.kind = kind) = intake.placed? kind := by
  refine ⟨?_, fun _ => ofDeclarations_eq_error_iff, fun _ _ => Identifier.parse_eq_parse_iff,
    ofDeclarations_eq_map declared, ?_⟩
  · rw [exists_eq_error_iff, ← not_and_or]
    simp [ofDeclarations_eq_ok_iff]
  · intro snapshot h
    refine ⟨⟨blocks_ofDeclarations h, ?_⟩, ⟨entityRegistry_ofDeclarations h, ?_⟩, ?_, ?_,
      exists_intake_of_ofDeclarations h⟩
    · intro block _
      exact block.exists_entry_eq_error_iff
    · intro entity _
      exact entity.exists_entry_eq_error_iff
    · intro entity hentity
      exact create_ofDeclarations h hentity
    · intro kind hkind
      exact create_eq_error_of_not_mem h hkind

/-- An open block with a property, a withheld one with another, and entities with an object, with a
class and a failure, withheld with a class, and with nothing. -/
def declaredKinds : Declarations where
  blocks := [⟨⟨"minecraft", "stone"⟩, [⟨"damp", .boolean⟩, ⟨"age", .intRange 0 3⟩], false⟩,
    ⟨⟨"create", "cog"⟩, [⟨"axis", .boolean⟩], true⟩]
  entities := [⟨⟨"minecraft", "pig"⟩, some "host.Pig", none, false⟩,
    ⟨⟨"minecraft", "ghost"⟩, some "host.Ghost", some .typeMismatch, false⟩,
    ⟨⟨"minecraft", "stone"⟩, some "host.Stone", some .typeMismatch, true⟩,
    ⟨⟨"minecraft", "bare"⟩, none, none, false⟩]
  classes := Catalog.empty
  root := defaultRoot

/-- The same with a block and an entity repeated, the block also as an entity. -/
def declaredAgain : Declarations :=
  { declaredKinds with
    blocks := declaredKinds.blocks ++ [⟨Identifier.parse "stone", [], true⟩,
      ⟨⟨"create", "cog"⟩, [], false⟩]
    entities := declaredKinds.entities ++ declaredKinds.entities }

/-- A withheld kind is refused whatever else is declared of it, and a repetition of a block counts
before that of an entity. -/
theorem ofDeclarations_spec_kinds :
    (∃ snapshot, ofDeclarations declaredKinds = .ok snapshot ∧
      snapshot.blocks =
        [.ok ⟨⟨"minecraft", "stone"⟩, [⟨"damp", .boolean⟩, ⟨"age", .intRange 0 3⟩]⟩,
          .error ⟨"create:cog", "field is not a block"⟩] ∧
      snapshot.entityRegistry = [.ok ⟨"minecraft", "pig"⟩, .ok ⟨"minecraft", "ghost"⟩,
        .error ⟨"minecraft:stone", "field is not an entity type"⟩, .ok ⟨"minecraft", "bare"⟩] ∧
      (snapshot.create ⟨"minecraft", "pig"⟩).map (Option.map snapshot.classes.name?) =
        .ok (some (some "host.Pig")) ∧
      (snapshot.create ⟨"minecraft", "stone"⟩).map (Option.map snapshot.classes.name?) =
        .error ⟨.access, ⟨"minecraft", "stone"⟩⟩ ∧
      snapshot.create ⟨"create", "cog"⟩ = .error ⟨.access, ⟨"create", "cog"⟩⟩ ∧
      ∃ intake, Intake.ofDeclarations declaredKinds = .ok intake ∧
        intake.places.entries = [(⟨"minecraft", "pig"⟩, 0), (⟨"minecraft", "ghost"⟩, 1),
          (⟨"minecraft", "stone"⟩, 2), (⟨"minecraft", "bare"⟩, 3)] ∧
        intake.placed? ⟨"minecraft", "bare"⟩ = some ⟨⟨"minecraft", "bare"⟩, .empty⟩) ∧
    ofDeclarations declaredAgain = .error (.duplicateBlock ⟨"minecraft", "stone"⟩) := by
  obtain ⟨-, -, -, -, hkinds⟩ := ofDeclarations_spec declaredKinds
  obtain ⟨-, herror, -, -, -⟩ := ofDeclarations_spec declaredAgain
  obtain ⟨⟨hblocks, -⟩, ⟨hentities, -⟩, hanswer, hother, intake, hintake, -, -, hplaces, hfind⟩ :=
    hkinds (ofDistinct declaredKinds) rfl
  have hpig := hanswer declaredKinds.entities[0] (by decide)
  have hstone := hanswer declaredKinds.entities[2] (by decide)
  have hbare : (ofDistinct declaredKinds).entities.find?
      (fun entry => entry.kind = ⟨"minecraft", "bare"⟩) =
        some ⟨⟨"minecraft", "bare"⟩, .empty⟩ := by
    decide +kernel
  have hrepeat : EarliestRepeat (declaredAgain.blocks.map DeclaredBlock.id)
      ⟨"minecraft", "stone"⟩ :=
    ⟨[⟨"minecraft", "stone"⟩, ⟨"create", "cog"⟩], [⟨"create", "cog"⟩], by decide, by decide,
      by decide⟩
  exact ⟨⟨_, rfl, hblocks, hentities, hpig, hstone, hother _ (by decide), intake, hintake, hplaces,
    (hfind _).symm.trans hbare⟩, (herror _).2 (Or.inl ⟨_, hrepeat, rfl⟩)⟩

end RegistrySchema.Snapshot
