import RegistrySchema.BlockWalk
import RegistrySchema.Proofs.Catalog

/-!
# What a walk over block kinds finds

A walk by its two results: one record for each entry that the registry hands out, and the enum
types of all sightings, entered one after the other into the table that the walk was given.
Conflicts and withheld entries leave no trace in either.

Whatever a record is tagged with, if the tag is an enum, then its name was sighted on the way and
is known in the end, under the labels found there or under other ones.
-/

namespace RegistrySchema.BlockWalk

/-- The block kinds that a registry hands out. -/
def accessible (registry : Registry BlockKind) : List BlockKind :=
  registry.filterMap Except.toOption

/-- What the properties of a kind are sighted as, in declared order. -/
def kindSightings (overrides : Overrides) (settings : Settings) (kind : BlockKind) :
    List Sighting :=
  kind.properties.filterMap (sighting? overrides (settings.kindName kind.id))

/-- All sightings over a registry. -/
def sightings (overrides : Overrides) (settings : Settings) (registry : Registry BlockKind) :
    List Sighting :=
  (accessible registry).flatMap (kindSightings overrides settings)

/-! ## Steps -/

@[simp] theorem enums_sight (walk : BlockWalk) (sighting : Sighting) :
    (walk.sight sighting).enums = EnumTable.register walk.enums sighting := rfl

@[simp] theorem records_sight (walk : BlockWalk) (sighting : Sighting) :
    (walk.sight sighting).records = walk.records := rfl

theorem enums_foldl_sight (found : List Sighting) (walk : BlockWalk) :
    (found.foldl sight walk).enums = found.foldl EnumTable.register walk.enums := by
  induction found generalizing walk with
  | nil => rfl
  | cons sighting found ih => rw [List.foldl_cons, List.foldl_cons, ih, enums_sight]

theorem records_foldl_sight (found : List Sighting) (walk : BlockWalk) :
    (found.foldl sight walk).records = walk.records := by
  induction found generalizing walk with
  | nil => rfl
  | cons sighting found ih => rw [List.foldl_cons, ih, records_sight]

theorem enums_visit_ok (overrides : Overrides) (settings : Settings) (walk : BlockWalk)
    (kind : BlockKind) :
    (visit overrides settings walk (.ok kind)).enums =
      (kindSightings overrides settings kind).foldl EnumTable.register walk.enums :=
  enums_foldl_sight _ walk

theorem records_visit_ok (overrides : Overrides) (settings : Settings) (walk : BlockWalk)
    (kind : BlockKind) :
    (visit overrides settings walk (.ok kind)).records =
      walk.records ++ [record overrides (settings.kindName kind.id) kind] := by
  show (List.foldl sight walk _).records ++ _ = _
  rw [records_foldl_sight]

/-! ## Runs -/

/-- The table after a run: all sightings, entered in the order of the registry. -/
theorem enums_run (overrides : Overrides) (settings : Settings) (enums : EnumTable)
    (registry : Registry BlockKind) :
    (run overrides settings enums registry).enums =
      (sightings overrides settings registry).foldl EnumTable.register enums := by
  have hfold : ∀ walk : BlockWalk, (registry.foldl (visit overrides settings) walk).enums =
      (sightings overrides settings registry).foldl EnumTable.register walk.enums := by
    induction registry with
    | nil => intro walk; rfl
    | cons entry registry ih =>
      intro walk
      rw [List.foldl_cons, ih]
      -- A withheld entry is only logged.
      cases entry with
      | error err => rfl
      | ok kind =>
        have hcons : sightings overrides settings (.ok kind :: registry) =
            kindSightings overrides settings kind ++ sightings overrides settings registry := rfl
        rw [enums_visit_ok, hcons, List.foldl_append]
  exact hfold _

/-- The records of a run: one for each kind that is handed out, in the order of the registry. -/
theorem records_run (overrides : Overrides) (settings : Settings) (enums : EnumTable)
    (registry : Registry BlockKind) :
    (run overrides settings enums registry).records =
      (accessible registry).map fun kind =>
        record overrides (settings.kindName kind.id) kind := by
  -- Stated for any walk so far: the records that there are stay in front.
  have hfold : ∀ walk : BlockWalk, (registry.foldl (visit overrides settings) walk).records =
      walk.records ++ (accessible registry).map fun kind =>
        record overrides (settings.kindName kind.id) kind := by
    induction registry with
    | nil => intro walk; exact (List.append_nil _).symm
    | cons entry registry ih =>
      intro walk
      rw [List.foldl_cons, ih]
      cases entry with
      | error err => rfl
      | ok kind =>
        have hcons : accessible (.ok kind :: registry) = kind :: accessible registry := rfl
        rw [records_visit_ok, hcons, List.map_cons, List.append_assoc, List.singleton_append]
  exact hfold _

/-! ## Tags -/

/-- A property with an enum tag is sighted under that name. -/
theorem exists_sighting_of_classify (overrides : Overrides) (owner : String) {property : Property}
    {name : String} (h : overrides.classify property.domain = .named name) :
    ∃ sighting, sighting? overrides owner property = some sighting ∧ sighting.name = name := by
  unfold sighting?
  cases hdomain : property.domain with
  | intRange lo hi =>
    rw [hdomain] at h
    cases h
  | boolean =>
    rw [hdomain] at h
    cases h
  | enumeration domain =>
    rw [hdomain] at h
    exact ⟨_, rfl, TypeTag.named.inj h⟩
  | unclassified kind =>
    rw [hdomain] at h
    cases h

/-- Every enum was sighted on a kind that is handed out. -/
theorem exists_domain_of_mem_enums {overrides : Overrides} {settings : Settings}
    {registry : Registry BlockKind} {entry : String × List String}
    (h : entry ∈ (run overrides settings Catalog.empty registry).enums.entries) :
    ∃ kind ∈ accessible registry, ∃ property ∈ kind.properties, ∃ domain,
      property.domain = .enumeration domain ∧
        entry = (overrides.enumName domain, domain.labels) := by
  rw [enums_run] at h
  obtain hmem | ⟨sighting, hsighting, rfl⟩ :=
    Catalog.of_mem_entries_foldl_insert Sighting.name Sighting.values h
  · exact absurd hmem List.not_mem_nil
  · obtain ⟨kind, hkind, hsighting⟩ := List.mem_flatMap.1 hsighting
    obtain ⟨property, hproperty, hsight⟩ := List.mem_filterMap.1 hsighting
    refine ⟨kind, hkind, property, hproperty, ?_⟩
    unfold sighting? at hsight
    split at hsight
    · next domain hdomain =>
      obtain rfl := Option.some.inj hsight
      exact ⟨domain, hdomain, rfl⟩
    · cases hsight

/-- Every enum that a record is tagged with is in the table, conflicts or not. -/
theorem mem_keys_of_named (overrides : Overrides) (settings : Settings) (enums : EnumTable)
    (registry : Registry BlockKind) {found : BlockRecord}
    (hfound : found ∈ (run overrides settings enums registry).records)
    {pair : String × TypeTag} (hpair : pair ∈ found.properties) {name : String}
    (hname : pair.2 = .named name) :
    name ∈ (run overrides settings enums registry).enums.keys := by
  rw [records_run] at hfound
  obtain ⟨kind, hkind, rfl⟩ := List.mem_map.1 hfound
  obtain ⟨property, hproperty, rfl⟩ := List.mem_map.1 hpair
  obtain ⟨sighting, hsighting, rfl⟩ :=
    exists_sighting_of_classify overrides (settings.kindName kind.id) hname
  have hmem : sighting ∈ sightings overrides settings registry :=
    List.mem_flatMap.2 ⟨kind, hkind, List.mem_filterMap.2 ⟨property, hproperty, hsighting⟩⟩
  -- Entering a sighting makes its name known, whether or not it was known before.
  rw [enums_run]
  exact (Catalog.mem_keys_foldl_insert Sighting.name Sighting.values _ enums _).2
    (Or.inr ⟨sighting, hmem, rfl⟩)

end RegistrySchema.BlockWalk
