import RegistrySchema.Proofs.EnumUnification

/-!
# Uses of enumerated domains

What a walk over block kinds sights is settled by the *uses* of enumerated domains, in the order in
which the walk comes to them: a use is a domain on a kind, and the overrides and the settings only
say what the domain and the kind are called.

A walk that begins without enum types is best looked at one name at a time. The table's entry for a
name and the conflicts about it depend only on the sightings under that name (`get?_tableOf` and
`filter_conflictsOf`), and none of these sightings is a conflict iff they agree (`agreeOn_iff`).
-/

namespace RegistrySchema

/-- The domain as an enumerated one, if it is one. -/
def Domain.enum? : Domain → Option EnumDomain
  | .enumeration domain => some domain
  | _ => none

namespace EnumTable

/-- A sighting is compared with nothing but what the table has under its name. -/
theorem conflict?_congr {table other : EnumTable} {sighting : Sighting}
    (h : table.get? sighting.name = other.get? sighting.name) :
    conflict? table sighting = conflict? other sighting := by
  rw [conflict?, conflict?, h]

theorem name_of_conflict?_eq_some {table : EnumTable} {sighting : Sighting}
    {conflict : EnumConflict} (h : conflict? table sighting = some conflict) :
    conflict.name = sighting.name := by
  unfold conflict? at h
  split at h
  · cases h
  · split at h
    · cases h
    · rw [← Option.some.inj h]

/-- A sighting under a known name is no conflict iff its labels are those in the table. -/
theorem conflict?_eq_none_iff {table : EnumTable} {sighting : Sighting}
    (h : sighting.name ∈ table.keys) :
    conflict? table sighting = none ↔ table.get? sighting.name = some sighting.values := by
  obtain ⟨labels, hlabels⟩ := Option.isSome_iff_exists.1 (Catalog.get?_isSome_iff.2 h)
  rw [conflict?, hlabels, Option.some.injEq]
  dsimp only
  split
  · next heq => exact iff_of_true rfl heq
  · next hne => exact iff_of_false (Option.some_ne_none _) hne

end EnumTable

namespace BlockWalk

/-! ## Uses -/

/-- The use of an enumerated domain by a property. -/
structure EnumUse where
  /-- The kind that has the property. -/
  owner : Identifier
  /-- The domain. -/
  domain : EnumDomain
  deriving DecidableEq, Inhabited, Repr

/-- What a use is sighted as. -/
def EnumUse.sighting (overrides : Overrides) (settings : Settings) (use : EnumUse) : Sighting :=
  ⟨overrides.enumName use.domain, use.domain.labels, settings.kindName use.owner⟩

/-- The uses by the properties of a kind, in declared order. -/
def kindUses (kind : BlockKind) : List EnumUse :=
  kind.properties.filterMap fun property => property.domain.enum?.map (EnumUse.mk kind.id)

/-- All uses over a registry, in the order in which a walk comes to them. -/
def enumUses (registry : Registry BlockKind) : List EnumUse :=
  (accessible registry).flatMap kindUses

/-- The sightings of a walk are those of the uses. -/
theorem sightings_eq_map_uses (overrides : Overrides) (settings : Settings)
    (registry : Registry BlockKind) :
    sightings overrides settings registry =
      (enumUses registry).map (EnumUse.sighting overrides settings) := by
  have hkind : ∀ kind : BlockKind, kindSightings overrides settings kind =
      (kindUses kind).map (EnumUse.sighting overrides settings) := by
    intro kind
    rw [kindSightings, kindUses, List.map_filterMap]
    refine List.filterMap_congr fun property _ => ?_
    rw [sighting?]
    cases property.domain <;> rfl
  rw [sightings, enumUses, List.map_flatMap]
  exact List.flatMap_congr fun kind _ => hkind kind

/-! ## One name at a time -/

/-- The sightings under a name. -/
def under (name : String) (found : List Sighting) : List Sighting :=
  found.filter fun sighting => sighting.name = name

/-- All sightings under a name have the same labels. -/
def AgreeOn (found : List Sighting) (name : String) : Prop :=
  ∀ a ∈ found, ∀ b ∈ found, a.name = name → b.name = name → a.values = b.values

/-- The table that sightings make. -/
def tableOf (found : List Sighting) : EnumTable := found.foldl EnumTable.register Catalog.empty

/-- The conflicts that sightings make with their table. -/
def conflictsOf (found : List Sighting) : List EnumConflict :=
  found.filterMap (EnumTable.conflict? (tableOf found))

theorem get?_tableOf (found : List Sighting) (name : String) :
    (tableOf found).get? name = (under name found).head?.map Sighting.values := by
  have hempty : (Catalog.empty : EnumTable).get? name = none := rfl
  rw [tableOf, get?_foldl_register, hempty, Option.none_or, under, List.head?_filter]

/-- The conflicts about a name are those of the sightings under it. -/
theorem filter_conflictsOf (found : List Sighting) (name : String) :
    (conflictsOf found).filter (fun conflict => conflict.name = name) =
      (under name found).filterMap (EnumTable.conflict? (tableOf found)) := by
  rw [conflictsOf, under, List.filter_filterMap, List.filterMap_filter]
  refine List.filterMap_congr fun sighting _ => ?_
  cases hconflict : EnumTable.conflict? (tableOf found) sighting with
  | none => simp
  | some conflict =>
    rw [← EnumTable.name_of_conflict?_eq_some hconflict]
    by_cases hname : conflict.name = name <;> simp [hname]

/-- Two lists with the same sightings under a name make the same of it. -/
theorem tableOf_and_conflictsOf_of_under_eq {found others : List Sighting} {name : String}
    (h : under name found = under name others) :
    (tableOf found).get? name = (tableOf others).get? name ∧
      (conflictsOf found).filter (fun conflict => conflict.name = name) =
        (conflictsOf others).filter (fun conflict => conflict.name = name) := by
  have hget : (tableOf found).get? name = (tableOf others).get? name := by
    rw [get?_tableOf, get?_tableOf, h]
  refine ⟨hget, ?_⟩
  rw [filter_conflictsOf, filter_conflictsOf, h]
  refine List.filterMap_congr fun sighting hsighting => EnumTable.conflict?_congr ?_
  rw [of_decide_eq_true (List.mem_filter.1 hsighting).2, hget]

/-- Two readings of the same uses have the same sightings under a name if each use has the same
sighting in both, or in neither a sighting under that name. -/
theorem under_map_eq {α : Type} {f g : α → Sighting} {uses : List α} {name : String}
    (h : ∀ use ∈ uses, f use = g use ∨ (f use).name ≠ name ∧ (g use).name ≠ name) :
    under name (uses.map f) = under name (uses.map g) := by
  induction uses with
  | nil => rfl
  | cons use uses ih =>
    obtain ⟨huse, huses⟩ := List.forall_mem_cons.1 h
    have hrest := ih huses
    rw [under, under] at hrest ⊢
    rcases huse with hsame | ⟨hf, hg⟩
    · rw [List.map_cons, List.map_cons, List.filter_cons, List.filter_cons, hsame, hrest]
    · rw [List.map_cons, List.map_cons, List.filter_cons_of_neg (by simpa using hf),
        List.filter_cons_of_neg (by simpa using hg), hrest]

/-! ## Agreement -/

/-- If the sightings under a name agree, the table has their labels, whichever came first. -/
theorem get?_tableOf_eq_some_iff {found : List Sighting} {name : String} (h : AgreeOn found name)
    {labels : List String} :
    (tableOf found).get? name = some labels ↔
      ∃ sighting ∈ found, sighting.name = name ∧ sighting.values = labels := by
  have hmem : ∀ {sighting}, sighting ∈ under name found ↔
      sighting ∈ found ∧ sighting.name = name := by
    intro sighting
    rw [under, List.mem_filter, decide_eq_true_iff]
  rw [get?_tableOf]
  constructor
  · intro hget
    obtain ⟨sighting, hhead, hvalues⟩ := Option.map_eq_some_iff.1 hget
    obtain ⟨hfound, hname⟩ := hmem.1 (List.mem_of_head? hhead)
    exact ⟨sighting, hfound, hname, hvalues⟩
  · rintro ⟨sighting, hfound, hname, rfl⟩
    cases hunder : under name found with
    | nil =>
      have hnone := hmem.2 ⟨hfound, hname⟩
      rw [hunder] at hnone
      cases hnone
    | cons first others =>
      -- The table has the labels of the first sighting, which may be another one but agrees.
      have hfirst : first ∈ under name found := hunder ▸ List.mem_cons_self
      obtain ⟨hfirst, hfirstName⟩ := hmem.1 hfirst
      rw [List.head?_cons, Option.map_some, h first hfirst sighting hfound hfirstName hname]

/-- The sightings under a name agree iff none of them is a conflict. -/
theorem agreeOn_iff {found : List Sighting} {name : String} :
    AgreeOn found name ↔ ∀ sighting ∈ found, sighting.name = name →
      EnumTable.conflict? (tableOf found) sighting = none := by
  have hknown : ∀ sighting ∈ found, sighting.name ∈ (tableOf found).keys := fun sighting hmem =>
    (Catalog.mem_keys_foldl_insert Sighting.name Sighting.values found Catalog.empty _).2
      (Or.inr ⟨sighting, hmem, rfl⟩)
  constructor
  · rintro h sighting hmem rfl
    rw [EnumTable.conflict?_eq_none_iff (hknown sighting hmem), get?_tableOf_eq_some_iff h]
    exact ⟨sighting, hmem, rfl, rfl⟩
  · rintro h a ha b hb rfl hname
    -- Both were compared with the one entry that the table has under the name.
    have hlabels := (EnumTable.conflict?_eq_none_iff (hknown a ha)).1 (h a ha rfl)
    have hother := (EnumTable.conflict?_eq_none_iff (hknown b hb)).1 (h b hb hname)
    rw [hname, hlabels] at hother
    exact Option.some.inj hother

/-- There are no conflicts about a name that all sightings agree on. -/
theorem filter_conflictsOf_eq_nil {found : List Sighting} {name : String}
    (h : AgreeOn found name) :
    (conflictsOf found).filter (fun conflict => conflict.name = name) = [] := by
  rw [filter_conflictsOf, List.filterMap_eq_nil_iff]
  intro sighting hsighting
  obtain ⟨hfound, hname⟩ := List.mem_filter.1 hsighting
  exact agreeOn_iff.1 h sighting hfound (of_decide_eq_true hname)

/-! ## Walks that begin without enum types -/

theorem enums_run_empty (overrides : Overrides) (settings : Settings)
    (registry : Registry BlockKind) :
    (run overrides settings Catalog.empty registry).enums =
      tableOf (sightings overrides settings registry) :=
  enums_run overrides settings Catalog.empty registry

/-- What such a walk reports are the conflicts of its sightings. -/
theorem diagnostics_run_empty (overrides : Overrides) (settings : Settings)
    (registry : Registry BlockKind) :
    (run overrides settings Catalog.empty registry).diagnostics =
      (conflictsOf (sightings overrides settings registry)).map conflictDiagnostic := by
  rw [diagnostics_run (List.prefix_refl _), enums_run_empty, conflictsOf, List.map_filterMap]
  rfl

end BlockWalk

end RegistrySchema
