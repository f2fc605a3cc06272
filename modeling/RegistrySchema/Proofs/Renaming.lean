import RegistrySchema.Extraction
import RegistrySchema.Proofs.EntityWalk
import RegistrySchema.Proofs.EnumUses
import RegistrySchema.Proofs.Report.Lines

/-!
# The namespace of an extraction

The namespace of the settings is left out of names, and this is all that it is for. Both walks find
the same under any namespace: which kinds have a record, and what their records say besides the
name, is settled by the identifiers. The factory is asked for the same kinds, the player is known by
its whole identifier, and conflicts differ at most in the names of the kinds they are found on.

So two reports of a host under different namespaces have the same lines but for the names of blocks
and entities (`forall₂_lines`), each being the name of one kind under one namespace and under the
other.
-/

namespace RegistrySchema

namespace BlockWalk

variable (overrides : Overrides) (settings : Settings) (space : String)

/-- The kinds that have a record, with what is recorded besides the name. -/
def nameless (registry : Registry BlockKind) : List (Identifier × List (String × TypeTag)) :=
  (accessible registry).map fun kind =>
    (kind.id, kind.properties.map fun property =>
      (property.name, overrides.classify property.domain))

theorem records_run_eq_map_nameless (enums : EnumTable) (registry : Registry BlockKind) :
    (run overrides settings enums registry).records =
      (nameless overrides registry).map fun found =>
        ⟨found.1.stripped settings.space, found.2⟩ := by
  rw [records_run, nameless, List.map_map]
  rfl

/-- The owners of sightings do not get into the table. -/
theorem tableOf_sightings_space (registry : Registry BlockKind) :
    tableOf (sightings overrides { settings with space } registry) =
      tableOf (sightings overrides settings registry) := by
  rw [sightings_eq_map_uses, sightings_eq_map_uses, tableOf, tableOf, List.foldl_map,
    List.foldl_map]
  -- What is entered is the name of the domain and its labels.
  rfl

theorem enums_run_space (registry : Registry BlockKind) :
    (run overrides { settings with space } Catalog.empty registry).enums =
      (run overrides settings Catalog.empty registry).enums := by
  rw [enums_run_empty, enums_run_empty, tableOf_sightings_space]

/-- Whether a sighting is a conflict does not depend on its owner. -/
theorem map_kind_conflict? (table : EnumTable) (use : EnumUse) :
    ((EnumTable.conflict? table (use.sighting overrides { settings with space })).map
        conflictDiagnostic).map Diagnostic.kind =
      ((EnumTable.conflict? table (use.sighting overrides settings)).map
        conflictDiagnostic).map Diagnostic.kind := by
  have hkind : ∀ sighting : Sighting,
      ((EnumTable.conflict? table sighting).map conflictDiagnostic).map Diagnostic.kind =
        (table.get? sighting.name).bind fun labels =>
          if labels = sighting.values then none else some .enumConflict := by
    intro sighting
    rw [EnumTable.conflict?]
    cases table.get? sighting.name with
    | none => rfl
    | some labels =>
      rw [Option.bind_some]
      dsimp only
      split <;> rfl
  rw [hkind, hkind]
  rfl

theorem map_kind_diagnostics_run_space (registry : Registry BlockKind) :
    (run overrides { settings with space } Catalog.empty registry).diagnostics.map
        Diagnostic.kind =
      (run overrides settings Catalog.empty registry).diagnostics.map Diagnostic.kind := by
  rw [diagnostics_run_empty, diagnostics_run_empty, conflictsOf, conflictsOf,
    tableOf_sightings_space, sightings_eq_map_uses, sightings_eq_map_uses]
  simp only [List.map_filterMap, List.filterMap_map, Function.comp_def]
  exact List.filterMap_congr fun use _ => map_kind_conflict? overrides settings space _ use

end BlockWalk

namespace EntityWalk

variable {τ : Type} [DecidableEq τ] (graph : TypeGraph τ) (factory : Factory τ)
  (settings : Settings) (space : String)

/-- The kinds that have a record, with what is recorded besides the name. -/
def nameless (registry : Registry Identifier) : List (Identifier × Option SourcePath) :=
  (asked settings registry).filterMap fun kind =>
    match factory kind settings.world with
    | .error _ => none
    | .ok object? => some (kind, object?.map graph.sourcePath)

theorem records_run_eq_map_nameless (registry : Registry Identifier) :
    (run graph factory settings registry).records =
      (nameless graph factory settings registry).map fun found =>
        ⟨found.1.stripped settings.space, found.2⟩ := by
  rw [records_run, nameless, List.map_filterMap]
  refine List.filterMap_congr fun kind _ => ?_
  cases factory kind settings.world <;> rfl

omit [DecidableEq τ] in
/-- The player has no record. -/
theorem ne_player_of_mem_nameless {registry : Registry Identifier}
    {found : Identifier × Option SourcePath}
    (h : found ∈ nameless graph factory settings registry) : found.1 ≠ settings.player := by
  obtain ⟨kind, hkind, hfound⟩ := List.mem_filterMap.1 h
  split at hfound
  · cases hfound
  · cases hfound
    exact (mem_asked_iff.1 hkind).2

theorem ne_player_of_mem_requests {registry : Registry Identifier}
    {request : Identifier × Identifier}
    (h : request ∈ (run graph factory settings registry).requests) :
    request.1 ≠ settings.player := by
  rw [requests_run] at h
  obtain ⟨kind, hkind, rfl⟩ := List.mem_map.1 h
  exact (mem_asked_iff.1 hkind).2

theorem requests_run_space (registry : Registry Identifier) :
    (run graph factory { settings with space } registry).requests =
      (run graph factory settings registry).requests := by
  rw [requests_run, requests_run]
  rfl

theorem classes_run_space (registry : Registry Identifier) :
    (run graph factory { settings with space } registry).classes =
      (run graph factory settings registry).classes := by
  rw [classes_run, classes_run]
  rfl

/-- A warning for each kind that has a record without a class. -/
theorem map_kind_diagnostics_run (registry : Registry Identifier) :
    (run graph factory settings registry).diagnostics.map Diagnostic.kind =
      ((nameless graph factory settings registry).filter fun found =>
        decide (found.2 = none)).map fun _ => .instantiationEmpty := by
  rw [diagnostics_run, records_run_eq_map_nameless, List.filter_map, List.map_map, List.map_map]
  rfl

end EntityWalk

namespace Report

/-- Lines that are the same but for the name of a block or of an entity: it is the name of one kind,
with one namespace left out and with another. -/
inductive LineRenamed (space other : String) : List Char → List Char → Prop
  | same (line : List Char) : LineRenamed space other line line
  | block (kind : Identifier) (rest : List Char) :
    LineRenamed space other (lineHead .blocks (kind.stripped space) ++ rest)
      (lineHead .blocks (kind.stripped other) ++ rest)
  | entity (kind : Identifier) (rest : List Char) :
    LineRenamed space other (lineHead .entities (kind.stripped space) ++ rest)
      (lineHead .entities (kind.stripped other) ++ rest)

end Report

namespace Schema

open Report

/-- Schemas that differ in the names of blocks and entities alone have the same lines but for these
names. -/
theorem forall₂_lines {schema renamed : Schema} {space other : String}
    {blocks : List (Identifier × List (String × TypeTag))}
    {entities : List (Identifier × Option SourcePath)}
    (hblocks : schema.blocks = blocks.map fun found => ⟨found.1.stripped space, found.2⟩)
    (hblocks' : renamed.blocks = blocks.map fun found => ⟨found.1.stripped other, found.2⟩)
    (hentities : schema.entities = entities.map fun found => ⟨found.1.stripped space, found.2⟩)
    (hentities' : renamed.entities = entities.map fun found => ⟨found.1.stripped other, found.2⟩)
    (henums : renamed.enums = schema.enums) (hclasses : renamed.classes = schema.classes) :
    List.Forall₂ (LineRenamed space other) schema.lines renamed.lines := by
  have hsame : ∀ lines : List (List Char), List.Forall₂ (LineRenamed space other) lines lines :=
    fun lines => List.forall₂_same.2 fun line _ => .same line
  -- The sections correspond one by one, and so do the empty lines between them.
  rw [lines, lines, enumRecords, enumRecords, classRecords, classRecords, henums, hclasses, hblocks,
    hblocks', hentities, hentities']
  refine List.rel_append ?_ (.cons (.same _) (List.rel_append (hsame _) (.cons (.same _)
    (List.rel_append ?_ (.cons (.same _) (hsame _))))))
  · simp only [List.map_map, List.forall₂_map_left_iff, List.forall₂_map_right_iff]
    refine List.forall₂_same.2 fun found _ => ?_
    simp only [Function.comp_apply, Record.line, blockLine, List.append_assoc]
    exact .block found.1 _
  · simp only [List.map_map, List.forall₂_map_left_iff, List.forall₂_map_right_iff]
    exact List.forall₂_same.2 fun found _ => .entity found.1 _

end Schema

namespace Extraction

variable {τ : Type} [DecidableEq τ]

/-- The findings of both walks have the same kinds, in the same order. -/
theorem map_kind_diagnostics_space (blocks : Registry BlockKind) (entities : Registry Identifier)
    (factory : Factory τ) (graph : TypeGraph τ) (settings : Settings) (space : String) :
    (ofHost blocks entities factory graph { settings with space }).diagnostics.map
        Diagnostic.kind =
      (ofHost blocks entities factory graph settings).diagnostics.map Diagnostic.kind := by
  rw [ofHost, ofHost, ofWalks, ofWalks, List.map_append, List.map_append,
    BlockWalk.map_kind_diagnostics_run_space, EntityWalk.map_kind_diagnostics_run,
    EntityWalk.map_kind_diagnostics_run]
  -- The kinds with a record are found by the player and the world, which are the same.
  rfl

/-- Two extractions from a host with settings that differ in the namespace alone. The same kinds
have a record, in the same order, and each record says the same besides the kind's name, which
leaves out the one namespace or the other. Enum types, classes and the kinds of the findings are the
same; the factory is asked for the same kinds in the same world, and never for the player. So the
two reports are the same line by line, but for the names of blocks and entities. -/
theorem ofHost_space (blocks : Registry BlockKind) (entities : Registry Identifier)
    (factory : Factory τ) (graph : TypeGraph τ) (settings : Settings) (space : String) :
    let extraction := ofHost blocks entities factory graph settings
    let renamed := ofHost blocks entities factory graph { settings with space }
    let blockFindings := BlockWalk.nameless Overrides.wellKnown blocks
    let entityFindings := EntityWalk.nameless graph factory settings entities
    let walk := EntityWalk.run graph factory settings entities
    let renamedWalk := EntityWalk.run graph factory { settings with space } entities
    (extraction.schema.blocks =
        blockFindings.map (fun found => ⟨found.1.stripped settings.space, found.2⟩) ∧
      renamed.schema.blocks =
        blockFindings.map (fun found => ⟨found.1.stripped space, found.2⟩)) ∧
      (extraction.schema.entities =
          entityFindings.map (fun found => ⟨found.1.stripped settings.space, found.2⟩) ∧
        renamed.schema.entities =
          entityFindings.map (fun found => ⟨found.1.stripped space, found.2⟩)) ∧
      renamed.schema.enums = extraction.schema.enums ∧
      renamed.schema.classes = extraction.schema.classes ∧
      renamed.diagnostics.map Diagnostic.kind = extraction.diagnostics.map Diagnostic.kind ∧
      renamedWalk.requests = walk.requests ∧
      (∀ request ∈ walk.requests, request.1 ≠ settings.player) ∧
      (∀ found ∈ entityFindings, found.1 ≠ settings.player) ∧
      extraction.reportText = String.ofList (Report.linesText extraction.schema.lines) ∧
      renamed.reportText = String.ofList (Report.linesText renamed.schema.lines) ∧
      List.Forall₂ (Report.LineRenamed settings.space space) extraction.schema.lines
        renamed.schema.lines := by
  intro extraction renamed blockFindings entityFindings walk renamedWalk
  have hblocks : extraction.schema.blocks = _ :=
    BlockWalk.records_run_eq_map_nameless Overrides.wellKnown settings Catalog.empty blocks
  have hblocks' : renamed.schema.blocks = _ :=
    BlockWalk.records_run_eq_map_nameless Overrides.wellKnown { settings with space } Catalog.empty
      blocks
  have hentities : extraction.schema.entities = _ :=
    EntityWalk.records_run_eq_map_nameless graph factory settings entities
  have hentities' : renamed.schema.entities = _ :=
    EntityWalk.records_run_eq_map_nameless graph factory { settings with space } entities
  have henums : renamed.schema.enums = extraction.schema.enums :=
    BlockWalk.enums_run_space Overrides.wellKnown settings space blocks
  have hclasses : renamed.schema.classes = extraction.schema.classes :=
    EntityWalk.classes_run_space graph factory settings space entities
  refine ⟨⟨hblocks, hblocks'⟩, ⟨hentities, hentities'⟩, henums, hclasses,
    map_kind_diagnostics_space blocks entities factory graph settings space,
    EntityWalk.requests_run_space graph factory settings space entities,
    fun request => EntityWalk.ne_player_of_mem_requests graph factory settings,
    fun found => EntityWalk.ne_player_of_mem_nameless graph factory settings, ?_, ?_,
    Schema.forall₂_lines hblocks hblocks' hentities hentities' henums hclasses⟩
  · exact congrArg String.ofList extraction.schema.reportChars_eq
  · exact congrArg String.ofList renamed.schema.reportChars_eq

/-- Two blocks of two namespaces that disagree about an enum type. -/
def twoLogs : Registry BlockKind :=
  [.ok ⟨⟨"minecraft", "log"⟩, [⟨"axis", .enumeration ⟨none, "Axis", [⟨"x", none⟩]⟩⟩]⟩,
    .ok ⟨⟨"mod", "log"⟩, [⟨"axis", .enumeration ⟨none, "Axis", [⟨"y", none⟩]⟩⟩]⟩]

/-- Under the second block's namespace it is the first one that is named in full. -/
theorem ofHost_space_twoLogs :
    let host := ofHost twoLogs EntityWalk.mixedRegistry EntityWalk.cowsOnly TypeGraph.entwined
    (host {}).schema.blocks.map BlockRecord.name = ["log", "mod:log"] ∧
      (host { space := "mod" }).schema.blocks.map BlockRecord.name = ["minecraft:log", "log"] ∧
      (host { space := "mod" }).schema.entities.map EntityRecord.name =
        ["minecraft:cow", "minecraft:marker", "cow"] ∧
      (host { space := "mod" }).schema.enums = (host {}).schema.enums ∧
      (host { space := "mod" }).diagnostics.map Diagnostic.kind =
        [.enumConflict, .instantiationEmpty] := by
  intro host
  obtain ⟨⟨hblocks, hblocks'⟩, ⟨-, hentities'⟩, henums, -, hkinds, -⟩ :=
    ofHost_space twoLogs EntityWalk.mixedRegistry EntityWalk.cowsOnly TypeGraph.entwined {} "mod"
  exact ⟨(congrArg (List.map BlockRecord.name) hblocks).trans (by decide +kernel),
    (congrArg (List.map BlockRecord.name) hblocks').trans (by decide +kernel),
    (congrArg (List.map EntityRecord.name) hentities').trans (by decide +kernel),
    henums, hkinds.trans (by decide +kernel)⟩

end Extraction

end RegistrySchema
