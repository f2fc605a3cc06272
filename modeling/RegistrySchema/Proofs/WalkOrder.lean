import RegistrySchema.Proofs.EnumUses

/-!
# The order of a walk

Of several lists of labels under one enum name the first counts, so the order of a registry decides
about the table of enum types and about what is reported. It does not decide whether a conflict is
reported at all: that is so iff two sightings under one name differ, wherever they stand. And
without conflicts the table has the labels of all sightings, whichever came first.

Walks over parts of a registry that share a table are one walk over the registry
(`tableAfter_parts`, `flatMap_diagnostics_walks_parts` and `flatMap_records_walks_parts`), so the
parts matter no more than the order.
-/

namespace RegistrySchema.BlockWalk

/-- No conflict is reported. -/
def ConflictFree (walk : BlockWalk) : Prop :=
  ∀ finding ∈ walk.diagnostics, finding.kind ≠ .enumConflict

instance (walk : BlockWalk) : Decidable walk.ConflictFree :=
  inferInstanceAs (Decidable (∀ finding ∈ walk.diagnostics, finding.kind ≠ .enumConflict))

/-- The record that a registry entry makes. -/
def entryRecord? (overrides : Overrides) (settings : Settings)
    (entry : Except AccessError BlockKind) : Option BlockRecord :=
  entry.toOption.map fun kind => record overrides (settings.kindName kind.id) kind

variable (overrides : Overrides) (settings : Settings)

/-! ## One walk -/

theorem records_run_eq_filterMap (enums : EnumTable) (registry : Registry BlockKind) :
    (run overrides settings enums registry).records =
      registry.filterMap (entryRecord? overrides settings) := by
  rw [records_run, accessible, List.map_filterMap]
  rfl

/-- A walk is free of conflicts iff the sightings under each name agree. -/
theorem conflictFree_run_iff (registry : Registry BlockKind) :
    (run overrides settings Catalog.empty registry).ConflictFree ↔
      ∀ name, AgreeOn (sightings overrides settings registry) name := by
  have hnone : (run overrides settings Catalog.empty registry).ConflictFree ↔
      conflictsOf (sightings overrides settings registry) = [] := by
    rw [ConflictFree, diagnostics_run_empty, List.forall_mem_map, List.eq_nil_iff_forall_not_mem]
    exact forall₂_congr fun conflict _ => iff_of_false (fun h => h rfl) id
  rw [hnone, conflictsOf, List.filterMap_eq_nil_iff]
  simp only [agreeOn_iff]
  exact ⟨fun h _ sighting hmem _ => h sighting hmem, fun h sighting hmem => h _ sighting hmem rfl⟩

/-- The sightings are as many of each as before when the entries change places. -/
theorem perm_sightings {registry others : Registry BlockKind} (h : registry.Perm others) :
    (sightings overrides settings registry).Perm (sightings overrides settings others) :=
  (h.filterMap Except.toOption).flatMap_right _

theorem AgreeOn.of_perm {found others : List Sighting} {name : String} (hagree : AgreeOn found name)
    (h : found.Perm others) : AgreeOn others name :=
  fun a ha b hb => hagree a (h.mem_iff.2 ha) b (h.mem_iff.2 hb)

/-- Sightings that agree make the same table in any order, up to the order of its entries. -/
theorem perm_entries_tableOf {found others : List Sighting} (h : found.Perm others)
    (hagree : ∀ name, AgreeOn found name) :
    (tableOf found).entries.Perm (tableOf others).entries := by
  refine Catalog.perm_of_get?_eq fun name => Option.ext fun labels => ?_
  rw [get?_tableOf_eq_some_iff (hagree name),
    get?_tableOf_eq_some_iff ((hagree name).of_perm h)]
  simp only [h.mem_iff]

/-! ## Walks over parts -/

/-- A walk over each part of a registry, all with the same overrides and settings. -/
def partStages (parts : List (Registry BlockKind)) : List Stage :=
  parts.map (Stage.mk overrides settings)

/-- The parts have the sightings of the whole. -/
theorem sightings_flatten (parts : List (Registry BlockKind)) :
    (partStages overrides settings parts).flatMap Stage.sightings =
      sightings overrides settings parts.flatten := by
  induction parts with
  | nil => rfl
  | cons part parts ih =>
    rw [partStages] at ih ⊢
    rw [List.map_cons, List.flatMap_cons, ih, List.flatten_cons, sightings, sightings, accessible,
      accessible, List.filterMap_append, List.flatMap_append]
    rfl

/-- Walks over parts that share a table leave the table of one walk. -/
theorem tableAfter_parts (enums : EnumTable) (parts : List (Registry BlockKind)) :
    tableAfter enums (partStages overrides settings parts) =
      (run overrides settings enums parts.flatten).enums := by
  rw [tableAfter_eq_foldl, sightings_flatten, enums_run]

/-- They report what one walk reports. -/
theorem flatMap_diagnostics_walks_parts (enums : EnumTable) (parts : List (Registry BlockKind)) :
    (walks enums (partStages overrides settings parts)).flatMap BlockWalk.diagnostics =
      (run overrides settings enums parts.flatten).diagnostics := by
  have htable := tableAfter_parts overrides settings enums parts
  rw [diagnostics_run (List.prefix_refl _), ← htable, ← sightings_flatten,
    List.flatMap_def, map_diagnostics_walks (List.prefix_refl _), List.filterMap_flatMap,
    List.flatMap_def]

/-- They make the records that one walk makes. -/
theorem flatMap_records_walks_parts (enums : EnumTable) (parts : List (Registry BlockKind)) :
    (walks enums (partStages overrides settings parts)).flatMap BlockWalk.records =
      (run overrides settings enums parts.flatten).records := by
  rw [List.flatMap_def, map_records_walks, partStages, List.map_map, records_run, accessible,
    List.filterMap_flatten, List.map_flatten, List.map_map]
  rfl

/-- Together they are free of conflicts iff one walk is. -/
theorem conflictFree_walks_parts_iff (parts : List (Registry BlockKind)) :
    (∀ walk ∈ walks Catalog.empty (partStages overrides settings parts), walk.ConflictFree) ↔
      (run overrides settings Catalog.empty parts.flatten).ConflictFree := by
  simp only [ConflictFree]
  rw [← flatMap_diagnostics_walks_parts]
  simp only [List.mem_flatMap]
  exact ⟨fun h finding ⟨walk, hwalk, hfinding⟩ => h walk hwalk finding hfinding,
    fun h walk hwalk finding hfinding => h finding ⟨walk, hwalk, hfinding⟩⟩

variable {overrides settings}

/-- Whether conflicts are reported does not depend on the order of the entries, nor on how they are
spread over walks that share a table. Without conflicts all of these walks leave the same enum types
with the same labels. The records are those of the entries, one by one, so they follow the entries
in any case. -/
theorem conflictFree_walks_iff_of_perm {registry : Registry BlockKind}
    {parts : List (Registry BlockKind)} (h : parts.flatten.Perm registry) :
    let whole := run overrides settings Catalog.empty registry
    let stages := partStages overrides settings parts
    (whole.ConflictFree ↔ ∀ walk ∈ walks Catalog.empty stages, walk.ConflictFree) ∧
      (whole.ConflictFree → (tableAfter Catalog.empty stages).entries.Perm whole.enums.entries ∧
        ∀ name, (tableAfter Catalog.empty stages).get? name = whole.enums.get? name) ∧
      whole.records = registry.filterMap (entryRecord? overrides settings) ∧
      (walks Catalog.empty stages).flatMap BlockWalk.records =
        parts.flatten.filterMap (entryRecord? overrides settings) ∧
      ((walks Catalog.empty stages).flatMap BlockWalk.records).Perm whole.records := by
  intro whole stages
  have hsightings := perm_sightings overrides settings h
  have hrecords : (walks Catalog.empty stages).flatMap BlockWalk.records = _ :=
    (flatMap_records_walks_parts overrides settings Catalog.empty parts).trans
      (records_run_eq_filterMap overrides settings Catalog.empty parts.flatten)
  have hwhole : whole.records = _ :=
    records_run_eq_filterMap overrides settings Catalog.empty registry
  refine ⟨?_, fun hfree => ?_, hwhole, hrecords, ?_⟩
  · rw [conflictFree_walks_parts_iff, conflictFree_run_iff, conflictFree_run_iff]
    -- Agreement is about the members of a list and not about their order.
    exact forall_congr' fun name =>
      ⟨fun hagree => hagree.of_perm hsightings.symm, fun hagree => hagree.of_perm hsightings⟩
  · rw [conflictFree_run_iff] at hfree
    have htables : (tableAfter Catalog.empty stages).entries.Perm whole.enums.entries := by
      have hstages : tableAfter Catalog.empty stages = _ :=
        tableAfter_parts overrides settings Catalog.empty parts
      have henums : whole.enums = _ := enums_run_empty overrides settings registry
      rw [hstages, enums_run_empty, henums]
      exact (perm_entries_tableOf hsightings.symm hfree).symm
    exact ⟨htables, Catalog.get?_of_perm htables⟩
  · rw [hrecords, hwhole]
    exact h.filterMap _

/-- Kinds with two enum types between them. -/
def quarry : Registry BlockKind :=
  [.ok ⟨⟨"minecraft", "log"⟩, [⟨"axis", .enumeration ⟨none, "Axis", [⟨"x", none⟩]⟩⟩]⟩,
    .error ⟨"minecraft:void", "field is not a block"⟩,
    .ok ⟨⟨"minecraft", "slab"⟩,
      [⟨"type", .enumeration ⟨none, "SlabType", [⟨"TOP", some "top"⟩]⟩⟩, ⟨"wet", .boolean⟩]⟩,
    .ok ⟨⟨"mod", "pillar"⟩, [⟨"axis", .enumeration ⟨some "AXIS", "Axis", [⟨"X", some "x"⟩]⟩⟩]⟩]

/-- Its entries in parts, one of them empty, and the first entry last. -/
def quarryParts : List (Registry BlockKind) :=
  [(quarry.drop 1).take 2, [], quarry.drop 3, quarry.take 1]

/-- The enum types come in another order, with the same labels. -/
theorem conflictFree_walks_quarry :
    let whole := run [] {} Catalog.empty quarry
    let stages := partStages [] {} quarryParts
    quarryParts.flatten.Perm quarry ∧
      (∀ walk ∈ walks Catalog.empty stages, walk.ConflictFree) ∧
      whole.enums.entries = [("Axis", ["x"]), ("SlabType", ["top"])] ∧
      (tableAfter Catalog.empty stages).entries = [("SlabType", ["top"]), ("Axis", ["x"])] ∧
      (tableAfter Catalog.empty stages).entries.Perm whole.enums.entries ∧
      ((walks Catalog.empty stages).flatMap BlockWalk.records).map BlockRecord.name =
        ["slab", "mod:pillar", "log"] := by
  intro whole stages
  have hperm : quarryParts.flatten.Perm quarry := by decide
  have hfree : whole.ConflictFree := by decide +kernel
  obtain ⟨hiff, htables, -, hrecords, -⟩ :=
    @conflictFree_walks_iff_of_perm [] {} quarry quarryParts hperm
  refine ⟨hperm, hiff.1 hfree, by decide +kernel, by decide +kernel, (htables hfree).1, ?_⟩
  exact (congrArg (List.map BlockRecord.name) hrecords).trans (by decide +kernel)

end RegistrySchema.BlockWalk
