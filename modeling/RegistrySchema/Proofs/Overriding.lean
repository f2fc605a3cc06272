import RegistrySchema.Proofs.EnumUses

/-!
# One override more

A conflict is reported with the advice to give one of the domains a fixed name. What this does to a
walk: the properties whose domain has the key take the new name as their tag, and no other property
changes. Names that none of these properties has, before or after, keep their entry in the table and
their conflicts, in order; and if nothing else has the new name, it stands for the labels of the
domains with the key, without a conflict as soon as they agree.

The walks themselves go through different tables. They are compared one name at a time: a use of a
domain without the key is sighted alike in both, and a use of a domain with the key is sighted in
neither under a name that is left alone.
-/

namespace RegistrySchema

/-- The key of the domain, if it is an enumerated one that has a key. -/
def Domain.key? (values : Domain) : Option String := values.enum?.bind EnumDomain.key

namespace Overrides

/-- The overrides with a name for a key, in place of the one that the key had. -/
def fixing (overrides : Overrides) (key name : String) : Overrides := overrides ++ [(key, name)]

theorem name?_fixing (overrides : Overrides) (key name other : String) :
    (overrides.fixing key name).name? other =
      if other = key then some name else overrides.name? other := by
  split
  · next heq => rw [heq, fixing, name?_append_self]
  · next hne => rw [fixing, name?_append_of_ne overrides name (Ne.symm hne)]

/-- The domains with the key have the new name, and the others the name they had. -/
theorem enumName_fixing (overrides : Overrides) (key name : String) (domain : EnumDomain) :
    (overrides.fixing key name).enumName domain =
      if domain.key = some key then name else overrides.enumName domain := by
  rw [enumName, enumName]
  cases domain.key with
  | none => rfl
  | some found =>
    simp only [Option.bind_some, name?_fixing, Option.some.injEq]
    split <;> rfl

/-- The tag changes exactly on the domains with the key. -/
theorem classify_fixing (overrides : Overrides) (key name : String) (values : Domain) :
    (overrides.fixing key name).classify values =
      if values.key? = some key then .named name else overrides.classify values := by
  cases values with
  | enumeration domain =>
    rw [classify, enumName_fixing, classify, apply_ite TypeTag.named]
    rfl
  | _ => rfl

end Overrides

namespace BlockWalk

variable {overrides : Overrides} {settings : Settings} {registry : Registry BlockKind}
  {key name : String}

/-- A use is sighted as before, or, if its domain has the key, under the new name. -/
theorem sighting_fixing (use : EnumUse) :
    use.sighting (overrides.fixing key name) settings =
      if use.domain.key = some key then ⟨name, use.domain.labels, settings.kindName use.owner⟩
      else use.sighting overrides settings := by
  rw [EnumUse.sighting, Overrides.enumName_fixing]
  split <;> rfl

/-- A name that no domain with the key has, neither before nor after, is sighted as before. -/
theorem under_sightings_fixing {other : String} (hother : other ≠ name)
    (h : ∀ use ∈ enumUses registry, use.domain.key = some key →
      overrides.enumName use.domain ≠ other) :
    under other (sightings (overrides.fixing key name) settings registry) =
      under other (sightings overrides settings registry) := by
  rw [sightings_eq_map_uses, sightings_eq_map_uses]
  refine under_map_eq fun use huse => ?_
  rw [sighting_fixing]
  by_cases hkey : use.domain.key = some key
  · rw [if_pos hkey]
    exact Or.inr ⟨Ne.symm hother, h use huse hkey⟩
  · exact Or.inl (if_neg hkey)

/-- If only the domains with the key have the new name, its sightings are those of these domains. -/
theorem mem_sightings_fixing_iff
    (h : ∀ use ∈ enumUses registry, use.domain.key ≠ some key →
      overrides.enumName use.domain ≠ name) {sighting : Sighting} :
    sighting ∈ sightings (overrides.fixing key name) settings registry ∧ sighting.name = name ↔
      ∃ use ∈ enumUses registry, use.domain.key = some key ∧
        sighting = ⟨name, use.domain.labels, settings.kindName use.owner⟩ := by
  rw [sightings_eq_map_uses, List.mem_map]
  constructor
  · rintro ⟨⟨use, huse, rfl⟩, hname⟩
    rw [sighting_fixing] at hname ⊢
    by_cases hkey : use.domain.key = some key
    · exact ⟨use, huse, hkey, if_pos hkey⟩
    · rw [if_neg hkey] at hname
      exact absurd hname (h use huse hkey)
  · rintro ⟨use, huse, hkey, rfl⟩
    exact ⟨⟨use, huse, by rw [sighting_fixing, if_pos hkey]⟩, rfl⟩

/-- A name that no domain with the key has, neither before nor after, keeps its labels and its
conflicts. -/
theorem found_fixing_of_ne {other : String} (hother : other ≠ name)
    (h : ∀ use ∈ enumUses registry, use.domain.key = some key →
      overrides.enumName use.domain ≠ other) :
    (run (overrides.fixing key name) settings Catalog.empty registry).enums.get? other =
        (run overrides settings Catalog.empty registry).enums.get? other ∧
      (conflictsOf (sightings (overrides.fixing key name) settings registry)).filter
          (fun conflict => conflict.name = other) =
        (conflictsOf (sightings overrides settings registry)).filter
          (fun conflict => conflict.name = other) := by
  rw [enums_run_empty, enums_run_empty]
  exact tableOf_and_conflictsOf_of_under_eq (under_sightings_fixing hother h)

/-- If the domains with the key agree and nothing else has the new name, it stands for their
labels, and is in no conflict. -/
theorem found_fixing_of_agree {labels : List String}
    (hsome : ∃ use ∈ enumUses registry, use.domain.key = some key)
    (hlabels : ∀ use ∈ enumUses registry, use.domain.key = some key → use.domain.labels = labels)
    (hothers : ∀ use ∈ enumUses registry, use.domain.key ≠ some key →
      overrides.enumName use.domain ≠ name) :
    (run (overrides.fixing key name) settings Catalog.empty registry).enums.get? name =
        some labels ∧
      (conflictsOf (sightings (overrides.fixing key name) settings registry)).filter
        (fun conflict => conflict.name = name) = [] := by
  have hmem := @mem_sightings_fixing_iff overrides settings registry key name hothers
  have hvalues : ∀ sighting ∈ sightings (overrides.fixing key name) settings registry,
      sighting.name = name → sighting.values = labels := by
    intro sighting hsighting hname
    obtain ⟨use, huse, hkey, rfl⟩ := hmem.1 ⟨hsighting, hname⟩
    exact hlabels use huse hkey
  have hagree : AgreeOn (sightings (overrides.fixing key name) settings registry) name :=
    fun a ha b hb haname hbname => (hvalues a ha haname).trans (hvalues b hb hbname).symm
  refine ⟨?_, filter_conflictsOf_eq_nil hagree⟩
  rw [enums_run_empty, get?_tableOf_eq_some_iff hagree]
  -- Any use of a domain with the key is a sighting that the table can have its labels from.
  obtain ⟨use, huse, hkey⟩ := hsome
  obtain ⟨hsighting, hname⟩ := hmem.2 ⟨use, huse, hkey, rfl⟩
  exact ⟨_, hsighting, hname, hlabels use huse hkey⟩

/-- What a new override does to a walk over block kinds. In the records, the properties whose domain
has the key, and no others, are tagged with the new name. Every name but the new one and those that
the domains with the key had keeps its labels and its conflicts. If domains with the key occur and
agree, and no other domain has the new name, then the new name has their labels and no
conflict. -/
theorem run_fixing (overrides : Overrides) (settings : Settings) (registry : Registry BlockKind)
    (key name : String) :
    let plain := run overrides settings Catalog.empty registry
    let fixed := run (overrides.fixing key name) settings Catalog.empty registry
    let plainConflicts := conflictsOf (sightings overrides settings registry)
    let fixedConflicts := conflictsOf (sightings (overrides.fixing key name) settings registry)
    plain.diagnostics = plainConflicts.map conflictDiagnostic ∧
      fixed.diagnostics = fixedConflicts.map conflictDiagnostic ∧
      plain.records = (accessible registry).map (fun kind =>
        ⟨settings.kindName kind.id, kind.properties.map fun property =>
          (property.name, overrides.classify property.domain)⟩) ∧
      fixed.records = (accessible registry).map (fun kind =>
        ⟨settings.kindName kind.id, kind.properties.map fun property =>
          (property.name, if property.domain.key? = some key then .named name
            else overrides.classify property.domain)⟩) ∧
      (∀ other, other ≠ name →
        (∀ use ∈ enumUses registry, use.domain.key = some key →
          overrides.enumName use.domain ≠ other) →
        fixed.enums.get? other = plain.enums.get? other ∧
          fixedConflicts.filter (fun conflict => conflict.name = other) =
            plainConflicts.filter (fun conflict => conflict.name = other)) ∧
      ∀ labels, (∃ use ∈ enumUses registry, use.domain.key = some key) →
        (∀ use ∈ enumUses registry, use.domain.key = some key → use.domain.labels = labels) →
        (∀ use ∈ enumUses registry, use.domain.key ≠ some key →
          overrides.enumName use.domain ≠ name) →
        fixed.enums.get? name = some labels ∧
          fixedConflicts.filter (fun conflict => conflict.name = name) = [] := by
  intro plain fixed plainConflicts fixedConflicts
  have hrecords : fixed.records = _ :=
    records_run (overrides.fixing key name) settings Catalog.empty registry
  refine ⟨diagnostics_run_empty overrides settings registry,
    diagnostics_run_empty (overrides.fixing key name) settings registry,
    records_run overrides settings Catalog.empty registry, ?_,
    fun other hother hkeyed => found_fixing_of_ne hother hkeyed,
    fun labels hsome hlabels hothers => found_fixing_of_agree hsome hlabels hothers⟩
  simp only [hrecords, record, Overrides.classify_fixing]

/-- Two domains of one category, and two of another that disagree as well. -/
def workshop : Registry BlockKind :=
  [.ok ⟨⟨"minecraft", "furnace"⟩,
      [⟨"facing", .enumeration ⟨some "SIDE", "Direction", [⟨"N", some "north"⟩, ⟨"S", none⟩]⟩⟩]⟩,
    .error ⟨"minecraft:anvil", "field is not a block"⟩,
    .ok ⟨⟨"minecraft", "hopper"⟩,
      [⟨"facing", .enumeration ⟨some "HOPPER", "Direction", [⟨"D", some "down"⟩]⟩⟩,
        ⟨"axis", .enumeration ⟨none, "Axis", [⟨"x", none⟩]⟩⟩]⟩,
    .ok ⟨⟨"mod", "chute"⟩,
      [⟨"axis", .enumeration ⟨none, "Axis", [⟨"y", none⟩]⟩⟩,
        ⟨"facing", .enumeration ⟨some "HOPPER", "Direction", [⟨"D", some "down"⟩]⟩⟩]⟩]

/-- A name of their own spares the hoppers their conflicts, and leaves the other one. -/
theorem run_fixing_workshop :
    let plain := run [("HOPPER", "Direction")] {} Catalog.empty workshop
    let fixed := run (Overrides.fixing [("HOPPER", "Direction")] "HOPPER" "HopperDirection") {}
      Catalog.empty workshop
    plain.diagnostics.length = 3 ∧
      fixed.enums.get? "HopperDirection" = some ["down"] ∧
      fixed.enums.get? "Axis" = plain.enums.get? "Axis" ∧
      fixed.diagnostics = [conflictDiagnostic ⟨"Axis", ["x"], ["y"], "mod:chute"⟩] := by
  intro plain fixed
  obtain ⟨hplain, hfixed, -, -, hother, hname⟩ :=
    run_fixing [("HOPPER", "Direction")] {} workshop "HOPPER" "HopperDirection"
  refine ⟨?_, (hname ["down"] (by decide) (by decide) (by decide)).1,
    (hother "Axis" (by decide) (by decide)).1, hfixed.trans ?_⟩
  · exact (congrArg List.length hplain).trans (by decide +kernel)
  · decide +kernel

end BlockWalk

end RegistrySchema
