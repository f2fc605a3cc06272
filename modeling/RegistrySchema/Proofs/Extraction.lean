import RegistrySchema.Extraction
import RegistrySchema.Proofs.BlockWalk
import RegistrySchema.Proofs.EntityWalk
import RegistrySchema.Proofs.Report.Check
import RegistrySchema.Proofs.Report.RoundTrip
import RegistrySchema.Proofs.Snapshot.ClassNames

/-!
# Extractions check out

What the walks learn is consistent: enums are known by the time a record is tagged with them, the
class of an entity is entered before anything else of its chain, and its lineage names nothing but
what was entered with it. So the report of an extraction, once it can be read back at all, is free
of errors.

For the last point classes need distinct source paths. An entry may have been made earlier, when
its class was met as an ancestor; with distinct paths it is the entry that the class itself would
make.
-/

namespace RegistrySchema.Extraction

variable {τ : Type} [DecidableEq τ]

/-- The report of an extraction is read back, and a check finds no error but exactly the
properties without a type. -/
def ChecksOut (extraction : Extraction) : Prop :=
  ∃ report, Report.parse extraction.reportText = .ok report ∧
    report.Lists extraction.schema ∧
    hasErrors report.check = false ∧
    report.check = report.reviews

/-- What an extraction learns is consistent. -/
theorem consistent_ofHost (blocks : Registry BlockKind) (entities : Registry Identifier)
    (factory : Factory τ) (graph : TypeGraph τ) (settings : Settings)
    (hpaths : Function.Injective graph.sourcePath) :
    (ofHost blocks entities factory graph settings).schema.Consistent := by
  have hclasses : (ofHost blocks entities factory graph settings).schema.classes =
      ClassTable.collectAll graph (EntityWalk.objects factory settings entities) :=
    EntityWalk.classes_run graph factory settings entities
  -- Every class record is that of a type of the graph.
  have hentry : ∀ r ∈ (ofHost blocks entities factory graph settings).schema.classRecords,
      ∃ s, r = ⟨graph.sourcePath s, graph.lineage s⟩ := by
    intro r hr
    obtain ⟨entry, hentry, rfl⟩ := List.mem_map.1 hr
    rw [hclasses] at hentry
    obtain ⟨-, -, s, -, rfl⟩ := ClassTable.exists_of_mem_entries graph hentry
    exact ⟨s, rfl⟩
  refine ⟨?_, ?_, ?_, ?_⟩
  · intro r hr pair hpair name hname
    exact BlockWalk.mem_keys_of_named Overrides.wellKnown settings Catalog.empty blocks hr hpair
      hname
  · intro r hr source hsource
    obtain ⟨t, ht, rfl⟩ :=
      EntityWalk.exists_object_of_source graph factory settings entities hr hsource
    rw [hclasses]
    exact (ClassTable.mem_keys_collectAll graph _ _).2 ⟨t, ht, t, List.mem_cons_self, rfl⟩
  · intro r hr
    obtain ⟨s, rfl⟩ := hentry r hr
    exact nodup_firstsAfter _ _
  · intro r hr hsource ancestor hancestor
    obtain ⟨s, rfl⟩ := hentry r hr
    obtain ⟨found, hfound, hsource⟩ := List.mem_filterMap.1 hsource
    obtain ⟨t, ht, hpath⟩ :=
      EntityWalk.exists_object_of_source graph factory settings entities hfound hsource
    -- The entry is that of the object's own type, whichever type it was made for.
    obtain rfl := hpaths hpath
    rw [hclasses]
    exact ClassTable.mem_keys_of_mem_lineage graph ht hancestor

theorem checksOut_ofHost (blocks : Registry BlockKind) (entities : Registry Identifier)
    (factory : Factory τ) (graph : TypeGraph τ) (settings : Settings)
    (hpaths : Function.Injective graph.sourcePath)
    (hfits : (ofHost blocks entities factory graph settings).schema.Fits) :
    (ofHost blocks entities factory graph settings).ChecksOut := by
  obtain ⟨report, hparse, hlists, -⟩ := Schema.exists_parse_of_fits hfits
  have hcheck := Report.check_of_consistent hlists
    (consistent_ofHost blocks entities factory graph settings hpaths)
  refine ⟨report, hparse, hlists, ?_, hcheck⟩
  rw [hcheck]
  exact report.hasErrors_reviews

/-- The report of an extraction checks out if it can be read back and no two types share a source
path: whatever registries, factory and type graph it was made from, and whatever conflicts, skipped
entries and missing objects there were on the way. For a snapshot it is enough that no class name
has a slash. -/
theorem checksOut_of_fits :
    (∀ (τ : Type) [DecidableEq τ] (blocks : Registry BlockKind) (entities : Registry Identifier)
        (factory : Factory τ) (graph : TypeGraph τ) (settings : Settings),
      Function.Injective graph.sourcePath →
      (ofHost blocks entities factory graph settings).schema.Fits →
      (ofHost blocks entities factory graph settings).ChecksOut) ∧
    (∀ (declared : Snapshot.Declarations) (snapshot : Snapshot) (settings : Settings),
      Snapshot.ofDeclarations declared = .ok snapshot →
      (∀ name ∈ snapshot.classes.names, '/' ∉ name.toList) →
      (ofSnapshot snapshot settings).schema.Fits →
      (ofSnapshot snapshot settings).ChecksOut) := by
  refine ⟨?_, ?_⟩
  · intro τ _ blocks entities factory graph settings
    exact checksOut_ofHost blocks entities factory graph settings
  · intro declared snapshot settings hdeclared hslash hfits
    exact checksOut_ofHost _ _ _ _ settings
      (Snapshot.injective_sourcePath_ofDeclarations hdeclared hslash) hfits

/-- Two kinds with conflicting enums, a property without a type, and a withheld entry. -/
def troubledBlocks : Registry BlockKind :=
  [.error ⟨"minecraft:void", "field is not a block"⟩,
    .ok ⟨⟨"minecraft", "lever"⟩,
      [⟨"face", .enumeration ⟨none, "AttachFace", [⟨"FLOOR", some "floor"⟩, ⟨"WALL", none⟩]⟩⟩,
        ⟨"power", .unclassified "LongProperty"⟩]⟩,
    .ok ⟨⟨"mod", "bell"⟩, [⟨"face", .enumeration ⟨none, "AttachFace", [⟨"WALL", none⟩]⟩⟩]⟩]

/-- The player, a kind with an object, one without, one that is refused, and a withheld entry. -/
def troubledEntities : Registry Identifier :=
  [.ok ⟨"minecraft", "player"⟩, .ok ⟨"minecraft", "cow"⟩, .error ⟨"minecraft:egg", "not an entity"⟩,
    .ok ⟨"minecraft", "marker"⟩, .ok ⟨"minecraft", "boat"⟩]

/-- Makes an object of the first type for a cow, and none for a marker. -/
def cowFactory : Factory (Fin 5) := fun kind _ =>
  if kind.path = "cow" then .ok TypeGraph.entwined.types.head?
  else if kind.path = "marker" then .ok none
  else .error ⟨.access, kind⟩

/-- A snapshot with a property without a type, and a kind whose class extends another. -/
def declaredHerd : Snapshot.Declarations where
  blocks := [⟨⟨"minecraft", "lever"⟩, [⟨"power", .unclassified "LongProperty"⟩], false⟩]
  entities := [⟨⟨"minecraft", "cow"⟩, some "host.Cow", none, false⟩]
  classes := ⟨[("host.Cow", ⟨some "host.Animal", []⟩)], by decide⟩
  root := Snapshot.defaultRoot

/-- The snapshot that is made of it. -/
def herd : Snapshot where
  blocks := [.ok ⟨⟨"minecraft", "lever"⟩, [⟨"power", .unclassified "LongProperty"⟩]⟩]
  entities := [⟨⟨"minecraft", "cow"⟩, .made ⟨1⟩⟩]
  classes :=
    { nodes := [⟨"java.lang.Object", none, []⟩, ⟨"host.Cow", some ⟨2⟩, []⟩,
        ⟨"host.Animal", none, []⟩]
      byName := ⟨[("java.lang.Object", ⟨0⟩), ("host.Cow", ⟨1⟩), ("host.Animal", ⟨2⟩)], by decide⟩
      rootId := ⟨0⟩ }

/-- Trouble on the way does not reach the report. -/
theorem checksOut_of_fits_troubled :
    (ofHost troubledBlocks troubledEntities cowFactory TypeGraph.entwined {}).diagnostics.length =
        2 ∧
      (ofHost troubledBlocks troubledEntities cowFactory TypeGraph.entwined {}).ChecksOut ∧
      Snapshot.ofDeclarations declaredHerd = .ok herd ∧ (ofSnapshot herd {}).ChecksOut := by
  obtain ⟨hhost, hsnapshot⟩ := checksOut_of_fits
  have hpaths : Function.Injective TypeGraph.entwined.sourcePath :=
    TypeGraph.entwined.injective_sourcePath (by unfold Function.Injective; decide) (by decide)
  have hherd : Snapshot.ofDeclarations declaredHerd = .ok herd := rfl
  refine ⟨by decide +kernel, ?_, hherd, ?_⟩
  · exact hhost (Fin 5) troubledBlocks troubledEntities cowFactory TypeGraph.entwined {} hpaths
      (by decide +kernel)
  · exact hsnapshot declaredHerd herd {} hherd (by decide) (by decide +kernel)

end RegistrySchema.Extraction
