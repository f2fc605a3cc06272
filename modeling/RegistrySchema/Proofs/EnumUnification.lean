import RegistrySchema.Proofs.BlockWalk

/-!
# Enum unification over several walks

Walks over block kinds may share a table of enum types: each goes on with the table that the one
before it leaves. Their sightings, one walk after the other, settle everything. The labels that
count for a name, its *canonical* ones, are those the first table has or else those of the first
sighting, and a sighting is a conflict iff its labels are not these.

That conflicts can be read off the table in the end is due to one fact: entering a sighting does
not change whether it is a conflict (`conflict?_of_isPrefix`), since afterwards its name is known
with the labels that it was compared with, or with its own.
-/

namespace RegistrySchema

/-- Whether a sighting is a conflict can still be seen from any later table. -/
theorem EnumTable.conflict?_of_isPrefix {table later : EnumTable} {sighting : Sighting}
    (h : (register table sighting).entries <+: later.entries) :
    conflict? later sighting = conflict? table sighting := by
  unfold conflict?
  by_cases hknown : sighting.name ∈ table.keys
  · -- The labels of a known name are the same before and after.
    obtain ⟨labels, hlabels⟩ := Option.isSome_iff_exists.1 (Catalog.get?_isSome_iff.2 hknown)
    rw [register, Catalog.insert_of_mem _ hknown] at h
    rw [hlabels, Catalog.get?_of_isPrefix h hlabels]
  · -- A new name is no conflict before, and has the labels of the sighting after.
    have hbefore : table.get? sighting.name = none := by
      rwa [← Catalog.get?_isSome_iff, Bool.not_eq_true, Option.isSome_eq_false_iff,
        Option.isNone_iff_eq_none] at hknown
    have hafter : (register table sighting).get? sighting.name = some sighting.values := by
      rw [register, Catalog.get?_insert, hbefore, if_pos rfl, Option.none_or]
    rw [hbefore, Catalog.get?_of_isPrefix h hafter]
    exact if_pos rfl

namespace BlockWalk

/-- The labels that count for a name: those in the table, or else those of the first sighting
under that name. -/
def canonical (enums : EnumTable) (found : List Sighting) (name : String) : List String :=
  ((enums.get? name).or
    ((found.find? fun sighting => sighting.name = name).map Sighting.values)).getD []

/-- What is reported of a sighting that is compared with a table. -/
def complaint? (table : EnumTable) (sighting : Sighting) : Option Diagnostic :=
  (EnumTable.conflict? table sighting).map conflictDiagnostic

/-! ## One walk -/

/-- A name is found after a run if it was known before or was sighted, under its first labels. -/
theorem get?_foldl_register (found : List Sighting) (enums : EnumTable) (name : String) :
    (found.foldl EnumTable.register enums).get? name =
      (enums.get? name).or
        ((found.find? fun sighting => sighting.name = name).map Sighting.values) := by
  induction found generalizing enums with
  | nil => exact (Option.or_none).symm
  | cons sighting found ih =>
    rw [List.foldl_cons, ih, EnumTable.register, Catalog.get?_insert, Option.or_assoc]
    congr 1
    by_cases hname : sighting.name = name
    · rw [if_pos hname, Option.some_or, List.find?_cons_of_pos (by simpa using hname),
        Option.map_some]
    · rw [if_neg hname, Option.none_or, List.find?_cons_of_neg (by simpa using hname)]

/-- Sightings that are entered one after the other can be compared with any later table. -/
theorem diagnostics_foldl_sight {found : List Sighting} {walk : BlockWalk} {later : EnumTable}
    (h : (found.foldl EnumTable.register walk.enums).entries <+: later.entries) :
    (found.foldl sight walk).diagnostics =
      walk.diagnostics ++ found.filterMap (complaint? later) := by
  induction found generalizing walk with
  | nil => exact (List.append_nil _).symm
  | cons sighting found ih =>
    have hfirst : (EnumTable.register walk.enums sighting).entries <+: later.entries :=
      (Catalog.isPrefix_foldl_insert Sighting.name Sighting.values found _).trans h
    have hsight : (walk.sight sighting).diagnostics =
        walk.diagnostics ++ (complaint? later sighting).toList := by
      rw [complaint?, EnumTable.conflict?_of_isPrefix hfirst]
      rfl
    rw [List.foldl_cons, ih h, hsight, List.append_assoc]
    congr 1
    cases hcomplaint : complaint? later sighting with
    | none => rw [List.filterMap_cons_none hcomplaint, Option.toList_none, List.nil_append]
    | some finding => rw [List.filterMap_cons_some hcomplaint, Option.toList_some,
        List.singleton_append]

/-- The conflicts of a run, in the order of the sightings, seen from any later table. -/
theorem diagnostics_run {overrides : Overrides} {settings : Settings} {enums later : EnumTable}
    {registry : Registry BlockKind}
    (h : (run overrides settings enums registry).enums.entries <+: later.entries) :
    (run overrides settings enums registry).diagnostics =
      (sightings overrides settings registry).filterMap (complaint? later) := by
  have hfold : ∀ walk : BlockWalk,
      ((sightings overrides settings registry).foldl EnumTable.register walk.enums).entries <+:
          later.entries →
        (registry.foldl (visit overrides settings) walk).diagnostics =
          walk.diagnostics ++
            (sightings overrides settings registry).filterMap (complaint? later) := by
    clear h
    induction registry with
    | nil => intro walk _; exact (List.append_nil _).symm
    | cons entry registry ih =>
      intro walk hlater
      rw [List.foldl_cons]
      cases entry with
      | error err => exact ih _ hlater
      | ok kind =>
        have hcons : sightings overrides settings (.ok kind :: registry) =
            kindSightings overrides settings kind ++ sightings overrides settings registry := rfl
        rw [hcons, List.foldl_append] at hlater
        -- The table after this kind comes before the later one, too.
        have hkind := (Catalog.isPrefix_foldl_insert Sighting.name Sighting.values
          (sightings overrides settings registry) _).trans hlater
        have hvisit : (visit overrides settings walk (.ok kind)).diagnostics =
            walk.diagnostics ++
              (kindSightings overrides settings kind).filterMap (complaint? later) :=
          diagnostics_foldl_sight hkind
        rw [ih _ (by rwa [enums_visit_ok]), hvisit, hcons, List.filterMap_append,
          List.append_assoc]
  rw [enums_run] at h
  exact hfold _ h

/-- A walk finds what the kinds settle that are handed out. -/
theorem results_of_accessible_eq (overrides : Overrides) (settings : Settings) (enums : EnumTable)
    {registry registry' : Registry BlockKind} (h : accessible registry = accessible registry') :
    (run overrides settings enums registry).records =
        (run overrides settings enums registry').records ∧
      (run overrides settings enums registry).enums =
        (run overrides settings enums registry').enums ∧
      (run overrides settings enums registry).diagnostics =
        (run overrides settings enums registry').diagnostics := by
  have hsightings : sightings overrides settings registry =
      sightings overrides settings registry' := by rw [sightings, sightings, h]
  have henums : (run overrides settings enums registry).enums =
      (run overrides settings enums registry').enums := by
    rw [enums_run, enums_run, hsightings]
  refine ⟨by rw [records_run, records_run, h], henums, ?_⟩
  rw [diagnostics_run (List.prefix_refl _), diagnostics_run (List.prefix_refl _), hsightings,
    henums]

/-! ## Walks that share a table -/

/-- What one of several walks is over. -/
structure Stage where
  /-- The fixed enum names. -/
  overrides : Overrides
  /-- The settings. -/
  settings : Settings
  /-- The registry. -/
  registry : Registry BlockKind
  deriving DecidableEq, Inhabited, Repr

/-- The walk over a stage. -/
def Stage.walk (stage : Stage) (enums : EnumTable) : BlockWalk :=
  run stage.overrides stage.settings enums stage.registry

/-- The sightings over a stage. -/
def Stage.sightings (stage : Stage) : List Sighting :=
  BlockWalk.sightings stage.overrides stage.settings stage.registry

/-- The walks over stages, each with the table that the one before it leaves. -/
def walks (enums : EnumTable) : List Stage → List BlockWalk
  | [] => []
  | stage :: stages => stage.walk enums :: walks (stage.walk enums).enums stages

/-- The table that the last of these walks leaves. -/
def tableAfter (enums : EnumTable) : List Stage → EnumTable
  | [] => enums
  | stage :: stages => tableAfter (stage.walk enums).enums stages

/-- The table after the walks: all sightings, entered in the order of the walks. -/
theorem tableAfter_eq_foldl (enums : EnumTable) (stages : List Stage) :
    tableAfter enums stages =
      (stages.flatMap Stage.sightings).foldl EnumTable.register enums := by
  induction stages generalizing enums with
  | nil => rfl
  | cons stage stages ih =>
    rw [tableAfter, ih, Stage.walk, enums_run, List.flatMap_cons, List.foldl_append,
      Stage.sightings]

/-- The walks only add to the table. -/
theorem isPrefix_tableAfter (enums : EnumTable) (stages : List Stage) :
    enums.entries <+: (tableAfter enums stages).entries := by
  rw [tableAfter_eq_foldl]
  exact Catalog.isPrefix_foldl_insert Sighting.name Sighting.values _ enums

/-- The conflicts of each walk, seen from any later table. -/
theorem map_diagnostics_walks {enums later : EnumTable} {stages : List Stage}
    (h : (tableAfter enums stages).entries <+: later.entries) :
    (walks enums stages).map BlockWalk.diagnostics =
      stages.map fun stage => stage.sightings.filterMap (complaint? later) := by
  induction stages generalizing enums with
  | nil => rfl
  | cons stage stages ih =>
    have hstage : (stage.walk enums).enums.entries <+: later.entries :=
      (isPrefix_tableAfter _ stages).trans h
    have hwalk : (stage.walk enums).diagnostics =
        stage.sightings.filterMap (complaint? later) := diagnostics_run hstage
    rw [walks, List.map_cons, List.map_cons, ih h, hwalk]

/-- The records of each walk do not depend on the tables. -/
theorem map_records_walks (enums : EnumTable) (stages : List Stage) :
    (walks enums stages).map BlockWalk.records =
      stages.map fun stage => (accessible stage.registry).map fun kind =>
        record stage.overrides (stage.settings.kindName kind.id) kind := by
  induction stages generalizing enums with
  | nil => rfl
  | cons stage stages ih =>
    have hwalk : (stage.walk enums).records = (accessible stage.registry).map fun kind =>
        record stage.overrides (stage.settings.kindName kind.id) kind :=
      records_run stage.overrides stage.settings enums stage.registry
    rw [walks, List.map_cons, List.map_cons, ih, hwalk]

end BlockWalk

end RegistrySchema
