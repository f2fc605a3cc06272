import RegistrySchema.Extraction
import RegistrySchema.Proofs.EnumUnification
import RegistrySchema.Proofs.Snapshot.Likeness

/-!
# Entries that leave no trace

Withheld blocks, and entities that are withheld, fail or are the player, add nothing to a report:
without them the same declarations make a snapshot with the same records, tables and diagnostics
(`Extraction.ofSnapshot_of_keeping`). Only the log tells.

The walk over blocks finds what the handed out kinds settle, so nothing that is withheld matters.
The walk over entities is a sum of effects; that of a skipped entity has no record, no offer and no
warning, and that of any other is the same whatever else is declared, although the classes of the
skipped entities may have come before its own among the handles.
-/

namespace RegistrySchema

/-- Members without a share in a list of lists can be left out. -/
theorem flatMap_filter_of_eq_nil {α β : Type} {keep : α → Bool} {f : α → List β} {xs : List α}
    (h : ∀ x ∈ xs, keep x = false → f x = []) : (xs.filter keep).flatMap f = xs.flatMap f := by
  induction xs with
  | nil => rfl
  | cons x xs ih =>
    obtain ⟨hx, hxs⟩ := List.forall_mem_cons.1 h
    rw [List.flatMap_cons, ← ih hxs]
    cases hkeep : keep x with
    | true => rw [List.filter_cons_of_pos hkeep, List.flatMap_cons]
    | false => rw [List.filter_cons_of_neg (ne_true_of_eq_false hkeep), hx hkeep, List.nil_append]

namespace Snapshot

/-- What is left of declarations if only some block kinds and entity kinds are kept. -/
def Declarations.keeping (declared : Declarations) (keepBlock : DeclaredBlock → Bool)
    (keepEntity : DeclaredEntity → Bool) : Declarations :=
  { declared with
    blocks := declared.blocks.filter keepBlock
    entities := declared.entities.filter keepEntity }

/-- Whether a walk passes over an entity: it is withheld, has a failure or is the player. -/
def DeclaredEntity.Skipped (settings : Settings) (entity : DeclaredEntity) : Prop :=
  entity.inaccessible = true ∨ entity.failure.isSome = true ∨ entity.id = settings.player

instance (settings : Settings) (entity : DeclaredEntity) : Decidable (entity.Skipped settings) :=
  inferInstanceAs (Decidable (_ ∨ _ ∨ _))

/-- Declarations stay acceptable when some of them are left out. -/
theorem ofDeclarations_keeping {declared : Declarations} {snapshot : Snapshot}
    (h : ofDeclarations declared = .ok snapshot) (keepBlock : DeclaredBlock → Bool)
    (keepEntity : DeclaredEntity → Bool) :
    ofDeclarations (declared.keeping keepBlock keepEntity) =
      .ok (ofDistinct (declared.keeping keepBlock keepEntity)) := by
  obtain ⟨hblocks, hentities, -⟩ := ofDeclarations_eq_ok_iff.1 h
  exact ofDeclarations_eq_ok_iff.2 ⟨hblocks.sublist (List.filter_sublist.map _),
    hentities.sublist (List.filter_sublist.map _), rfl⟩

/-! ## Blocks -/

/-- The kinds that are handed out are those of the blocks that are not withheld. -/
theorem mem_accessible_iff {blocks : List DeclaredBlock} {kind : BlockKind} :
    kind ∈ BlockWalk.accessible (blocks.map DeclaredBlock.entry) ↔
      ∃ block ∈ blocks, block.inaccessible = false ∧ kind = ⟨block.id, block.properties⟩ := by
  rw [BlockWalk.accessible, List.filterMap_map, List.mem_filterMap]
  refine exists_congr fun block => and_congr_right fun _ => ?_
  rw [Function.comp_apply, DeclaredBlock.entry]
  split
  · next h => simp [h, Except.toOption]
  · next h => simp [h, Except.toOption, eq_comm]

/-- The kinds that are handed out stay the same if only withheld ones are left out. -/
theorem accessible_filter {blocks : List DeclaredBlock} {keep : DeclaredBlock → Bool}
    (h : ∀ block ∈ blocks, keep block = false → block.inaccessible = true) :
    BlockWalk.accessible ((blocks.filter keep).map DeclaredBlock.entry) =
      BlockWalk.accessible (blocks.map DeclaredBlock.entry) := by
  rw [BlockWalk.accessible, BlockWalk.accessible, List.filterMap_map, List.filterMap_map,
    List.filterMap_filter]
  refine List.filterMap_congr fun block hblock => ?_
  cases hkeep : keep block with
  | true => rfl
  | false =>
    show none = Except.toOption block.entry
    rw [DeclaredBlock.entry, if_pos (h block hblock hkeep)]
    rfl

/-- A walk over blocks finds the same without those that are withheld. -/
theorem blockWalk_keeping {declared : Declarations} {snapshot other : Snapshot}
    (h : ofDeclarations declared = .ok snapshot) {keepBlock : DeclaredBlock → Bool}
    {keepEntity : DeclaredEntity → Bool}
    (hother : ofDeclarations (declared.keeping keepBlock keepEntity) = .ok other)
    (settings : Settings)
    (hwithheld : ∀ block ∈ declared.blocks, keepBlock block = false →
      block.inaccessible = true) :
    let walk := BlockWalk.run Overrides.wellKnown settings Catalog.empty snapshot.blocks
    let walk' := BlockWalk.run Overrides.wellKnown settings Catalog.empty other.blocks
    walk'.records = walk.records ∧ walk'.enums = walk.enums ∧
      walk'.diagnostics = walk.diagnostics := by
  refine BlockWalk.results_of_accessible_eq Overrides.wellKnown settings Catalog.empty ?_
  rw [blocks_ofDeclarations h, blocks_ofDeclarations hother]
  exact accessible_filter hwithheld

/-! ## Entities -/

/-- Objects are made of the entities that are not skipped and name a class, and of that class. -/
theorem mem_objects_ofDeclarations_iff {declared : Declarations} {snapshot : Snapshot}
    (h : ofDeclarations declared = .ok snapshot) (settings : Settings)
    {t : Fin snapshot.classes.size} :
    t ∈ EntityWalk.objects snapshot.factory settings snapshot.entityRegistry ↔
      ∃ entity ∈ declared.entities, ¬ entity.Skipped settings ∧
        entity.className = some (snapshot.classes.types.name t) := by
  rw [EntityWalk.mem_objects_iff, entityRegistry_ofDeclarations h]
  constructor
  · rintro ⟨kind, hkind, hplayer, hanswer⟩
    obtain ⟨entity, hentity, hentry⟩ := List.mem_map.1 hkind
    obtain ⟨-, rfl⟩ := DeclaredEntity.entry_eq_ok_iff.1 hentry
    rw [factory_eq_ok_some_iff h hentity, DeclaredEntity.answer_eq_ok_some_iff] at hanswer
    obtain ⟨hopen, hfailure, hclass⟩ := hanswer
    exact ⟨entity, hentity, by simp [DeclaredEntity.Skipped, hopen, hfailure, hplayer], hclass⟩
  · rintro ⟨entity, hentity, hskipped, hclass⟩
    have hsettled : entity.inaccessible = false ∧ entity.failure = none ∧
        entity.id ≠ settings.player := by
      simpa [DeclaredEntity.Skipped] using hskipped
    obtain ⟨hopen, hfailure, hplayer⟩ := hsettled
    refine ⟨entity.id, List.mem_map.2 ⟨entity, hentity, ?_⟩, hplayer, ?_⟩
    · exact DeclaredEntity.entry_eq_ok_iff.2 ⟨hopen, rfl⟩
    · rw [factory_eq_ok_some_iff h hentity]
      exact DeclaredEntity.answer_eq_ok_some_iff.2 ⟨hopen, hfailure, hclass⟩

/-- The effect of a skipped entity is a note, and perhaps a request. -/
theorem effect_of_skipped {declared : Declarations} {snapshot : Snapshot}
    (h : ofDeclarations declared = .ok snapshot) {settings : Settings} {entity : DeclaredEntity}
    (hentity : entity ∈ declared.entities) (hskipped : entity.Skipped settings) :
    ∃ requests notes,
      EntityWalk.effect snapshot.classes.types snapshot.factory settings entity.entry =
        { requests, notes } := by
  unfold DeclaredEntity.entry
  split
  · exact ⟨_, _, rfl⟩
  · next hopen =>
    rw [EntityWalk.effect]
    split
    · exact ⟨_, _, rfl⟩
    · next hplayer =>
      -- What is left is a failure, which the factory answers with.
      obtain ⟨failure, hfailure⟩ : ∃ failure, entity.failure = some failure :=
        Option.isSome_iff_exists.1
          ((hskipped.resolve_left hopen).resolve_right hplayer)
      have hanswer := factory_ofDeclarations h hentity settings.world
      rw [DeclaredEntity.answer, if_neg hopen, hfailure] at hanswer
      cases hfactory : snapshot.factory entity.id settings.world with
      | error err => exact ⟨_, _, rfl⟩
      | ok found =>
        rw [hfactory] at hanswer
        cases hanswer

/-- What the effects of the entities have of one sort, if a note has none of it: the same whether or
not skipped entities are there. -/
theorem flatMap_effect_keeping {β : Type} {declared : Declarations} {snapshot other : Snapshot}
    (h : ofDeclarations declared = .ok snapshot) {keepBlock : DeclaredBlock → Bool}
    {keepEntity : DeclaredEntity → Bool}
    (hother : ofDeclarations (declared.keeping keepBlock keepEntity) = .ok other)
    {settings : Settings}
    (hskipped : ∀ entity ∈ declared.entities, keepEntity entity = false → entity.Skipped settings)
    (part : EntityWalk.Effect → List β)
    (hpart : ∀ requests notes, part { requests, notes } = []) :
    (other.entityRegistry.map
        (EntityWalk.effect other.classes.types other.factory settings)).flatMap part =
      (snapshot.entityRegistry.map
        (EntityWalk.effect snapshot.classes.types snapshot.factory settings)).flatMap part := by
  -- The declared classes are the same, so no condition on the names is needed.
  have halike : Alike declared.root (fun _ => True) (linksOf declared.classes)
      (linksOf (declared.keeping keepBlock keepEntity).classes) :=
    ⟨fun _ => rfl, fun _ _ _ => trivial, fun _ _ _ => trivial⟩
  rw [entityRegistry_ofDeclarations h, entityRegistry_ofDeclarations hother, List.map_map,
    List.map_map, List.flatMap_map, List.flatMap_map]
  -- The effects of what is kept are those in the full snapshot; only then can the rest be added.
  refine Eq.trans (List.flatMap_congr fun entity hkept => ?_)
    (flatMap_filter_of_eq_nil fun entity hentity hkeep => ?_)
  · have hentity : entity ∈ declared.entities := List.mem_of_mem_filter hkept
    exact congrArg part
      (effect_entry_eq h hother rfl halike settings hentity hkept fun _ _ => trivial).symm
  · obtain ⟨requests, notes, heffect⟩ :=
      effect_of_skipped h hentity (hskipped entity hentity hkeep)
    exact (congrArg part heffect).trans (hpart requests notes)

/-- A walk over entities finds the same without those that are skipped. -/
theorem entityWalk_keeping {declared : Declarations} {snapshot other : Snapshot}
    (h : ofDeclarations declared = .ok snapshot) {keepBlock : DeclaredBlock → Bool}
    {keepEntity : DeclaredEntity → Bool}
    (hother : ofDeclarations (declared.keeping keepBlock keepEntity) = .ok other)
    {settings : Settings}
    (hskipped : ∀ entity ∈ declared.entities, keepEntity entity = false →
      entity.Skipped settings) :
    let walk := EntityWalk.run snapshot.classes.types snapshot.factory settings
      snapshot.entityRegistry
    let walk' := EntityWalk.run other.classes.types other.factory settings other.entityRegistry
    walk'.records = walk.records ∧ walk'.classes = walk.classes ∧
      walk'.diagnostics = walk.diagnostics := by
  intro walk walk'
  have hwalk : walk = _ := EntityWalk.run_eq_sum _ _ settings _
  have hwalk' : walk' = _ := EntityWalk.run_eq_sum _ _ settings _
  rw [hwalk, hwalk']
  refine ⟨?_, ?_, ?_⟩
  · exact flatMap_effect_keeping h hother hskipped EntityWalk.Effect.records fun _ _ => rfl
  · exact congrArg (List.foldl _ Catalog.empty)
      (flatMap_effect_keeping h hother hskipped EntityWalk.Effect.offers fun _ _ => rfl)
  · exact flatMap_effect_keeping h hother hskipped EntityWalk.Effect.diagnostics fun _ _ => rfl

end Snapshot

open Snapshot

namespace Extraction

/-- An enum in the table was declared by a block that is not withheld. -/
theorem exists_block_of_mem_enums {declared : Declarations} {snapshot : Snapshot}
    (h : ofDeclarations declared = .ok snapshot) (settings : Settings)
    {entry : String × List String}
    (hentry : entry ∈ (ofSnapshot snapshot settings).schema.enums.entries) :
    ∃ block ∈ declared.blocks, block.inaccessible = false ∧
      ∃ property ∈ block.properties, ∃ domain, property.domain = .enumeration domain ∧
        entry = (Overrides.wellKnown.enumName domain, domain.labels) := by
  obtain ⟨kind, hkind, property, hproperty, hdomain⟩ := BlockWalk.exists_domain_of_mem_enums hentry
  rw [blocks_ofDeclarations h] at hkind
  obtain ⟨block, hblock, hopen, rfl⟩ := mem_accessible_iff.1 hkind
  exact ⟨block, hblock, hopen, property, hproperty, hdomain⟩

/-- The classes in the table are those of the chains of entities that are not skipped. -/
theorem mem_classes_iff {declared : Declarations} {snapshot : Snapshot}
    (h : ofDeclarations declared = .ok snapshot) (settings : Settings) {path : SourcePath} :
    path ∈ (ofSnapshot snapshot settings).schema.classes.keys ↔
      ∃ entity ∈ declared.entities, ¬ entity.Skipped settings ∧
        ∃ t, entity.className = some (snapshot.classes.types.name t) ∧
          ∃ s ∈ ClassTable.chain snapshot.classes.types t,
            snapshot.classes.types.sourcePath s = path := by
  have hobjects : (ofSnapshot snapshot settings).schema.classes =
      ClassTable.collectAll snapshot.classes.types
        (EntityWalk.objects snapshot.factory settings snapshot.entityRegistry) :=
    EntityWalk.classes_run snapshot.classes.types snapshot.factory settings _
  rw [hobjects, ClassTable.mem_keys_collectAll]
  constructor
  · rintro ⟨t, ht, s, hs, hpath⟩
    obtain ⟨entity, hentity, hkept, hclass⟩ := (mem_objects_ofDeclarations_iff h settings).1 ht
    exact ⟨entity, hentity, hkept, t, hclass, s, hs, hpath⟩
  · rintro ⟨entity, hentity, hkept, t, hclass, s, hs, hpath⟩
    have ht := (mem_objects_ofDeclarations_iff h settings).2 ⟨entity, hentity, hkept, hclass⟩
    exact ⟨t, ht, s, hs, hpath⟩

/-- Leaving out withheld blocks and skipped entities changes neither the records, the tables, the
diagnostics nor the bytes of a report. So every enum comes from a block that is not withheld, and
every class from an entity that is not skipped: the player's class is there only if it is met from
another entity. -/
theorem ofSnapshot_of_keeping {declared : Declarations} {snapshot : Snapshot}
    (hload : ofDeclarations declared = .ok snapshot) (settings : Settings)
    {keepBlock : DeclaredBlock → Bool} {keepEntity : DeclaredEntity → Bool}
    (hblocks : ∀ block ∈ declared.blocks, keepBlock block = false → block.inaccessible = true)
    (hentities : ∀ entity ∈ declared.entities, keepEntity entity = false →
      entity.Skipped settings) :
    (∃ other, ofDeclarations (declared.keeping keepBlock keepEntity) = .ok other ∧
      (ofSnapshot other settings).schema = (ofSnapshot snapshot settings).schema ∧
      (ofSnapshot other settings).diagnostics = (ofSnapshot snapshot settings).diagnostics ∧
      (ofSnapshot other settings).reportBytes = (ofSnapshot snapshot settings).reportBytes) ∧
    (∀ entry ∈ (ofSnapshot snapshot settings).schema.enums.entries,
      ∃ block ∈ declared.blocks, block.inaccessible = false ∧
        ∃ property ∈ block.properties, ∃ domain, property.domain = .enumeration domain ∧
          entry = (Overrides.wellKnown.enumName domain, domain.labels)) ∧
    (∀ path, path ∈ (ofSnapshot snapshot settings).schema.classes.keys ↔
      ∃ entity ∈ declared.entities, ¬ entity.Skipped settings ∧
        ∃ t, entity.className = some (snapshot.classes.types.name t) ∧
          ∃ s ∈ ClassTable.chain snapshot.classes.types t,
            snapshot.classes.types.sourcePath s = path) := by
  have hother := ofDeclarations_keeping hload keepBlock keepEntity
  obtain ⟨hrecords, henums, hconflicts⟩ := blockWalk_keeping hload hother settings hblocks
  obtain ⟨hrecords', hclasses, hwarnings⟩ := entityWalk_keeping hload hother hentities
  have hschema : (ofSnapshot (ofDistinct (declared.keeping keepBlock keepEntity)) settings).schema =
      (ofSnapshot snapshot settings).schema := by
    simp only [ofSnapshot, ofHost, ofWalks, hrecords, henums, hrecords', hclasses]
  refine ⟨⟨_, hother, hschema, ?_, ?_⟩, fun _ => exists_block_of_mem_enums hload settings,
    fun _ => mem_classes_iff hload settings⟩
  · simp only [ofSnapshot, ofHost, ofWalks, hconflicts, hwarnings]
  · rw [reportBytes, reportBytes, hschema]

/-- A withheld block, a player, a withheld entity and one that fails, and what there is besides. -/
def declaredVillage : Declarations where
  blocks := [⟨⟨"minecraft", "void"⟩,
      [⟨"shade", .enumeration ⟨none, "Shade", [⟨"DARK", none⟩]⟩⟩], true⟩,
    ⟨⟨"minecraft", "lever"⟩, [⟨"face", .enumeration ⟨none, "Face", [⟨"WALL", none⟩]⟩⟩], false⟩]
  entities := [⟨⟨"minecraft", "player"⟩, some "host.Player", none, false⟩,
    ⟨⟨"minecraft", "egg"⟩, some "host.Egg", none, true⟩,
    ⟨⟨"minecraft", "cow"⟩, some "host.Cow", none, false⟩,
    ⟨⟨"minecraft", "boat"⟩, none, some .access, false⟩,
    ⟨⟨"minecraft", "pig"⟩, some "host.Pig", none, false⟩,
    ⟨⟨"minecraft", "mannequin"⟩, some "host.Player", none, false⟩]
  classes := ⟨[("host.Cow", ⟨some "host.Animal", ["host.Breeds"]⟩)], by decide⟩
  root := defaultRoot

/-- The village without all that is skipped. -/
def quietVillage : Declarations :=
  declaredVillage.keeping (fun block => !block.inaccessible)
    fun entity => decide (¬ entity.Skipped {})

/-- Four entries leave no trace, although other classes have other handles without them. The class
of the player is met from another entity. -/
theorem ofSnapshot_of_keeping_village :
    (∀ block ∈ declaredVillage.blocks, (!block.inaccessible) = false →
        block.inaccessible = true) ∧
      (∀ entity ∈ declaredVillage.entities, decide (¬ entity.Skipped {}) = false →
        entity.Skipped {}) ∧
      ∃ snapshot other, ofDeclarations declaredVillage = .ok snapshot ∧
        ofDeclarations quietVillage = .ok other ∧
        quietVillage.blocks.length = 1 ∧ quietVillage.entities.length = 3 ∧
        snapshot.classes.lookup "host.Pig" ≠ other.classes.lookup "host.Pig" ∧
        (ofSnapshot other {}).schema = (ofSnapshot snapshot {}).schema ∧
        (ofSnapshot snapshot {}).schema.enums.keys = ["Face"] ∧
        ⟨"host/Player.java"⟩ ∈ (ofSnapshot snapshot {}).schema.classes.keys := by
  have hload : ofDeclarations declaredVillage = .ok (ofDistinct declaredVillage) := rfl
  have hblocks : ∀ block ∈ declaredVillage.blocks, (!block.inaccessible) = false →
      block.inaccessible = true := by decide
  have hentities : ∀ entity ∈ declaredVillage.entities,
      decide (¬ entity.Skipped {}) = false → entity.Skipped {} := by decide +kernel
  obtain ⟨⟨other, hother, hschema, -, -⟩, -, hclasses⟩ :=
    ofSnapshot_of_keeping hload {} hblocks hentities
  have hhandles : (ofDistinct declaredVillage).classes.lookup "host.Pig" ≠
      other.classes.lookup "host.Pig" := by
    obtain rfl := Except.ok.inj hother
    decide +kernel
  refine ⟨hblocks, hentities, _, other, hload, hother, by decide +kernel, by decide +kernel,
    hhandles, hschema, by decide +kernel, ?_⟩
  rw [hclasses]
  decide +kernel

end Extraction

end RegistrySchema
