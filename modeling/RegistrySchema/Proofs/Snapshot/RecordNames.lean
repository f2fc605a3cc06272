import RegistrySchema.Proofs.BlockWalk
import RegistrySchema.Proofs.Snapshot.Decoding
import RegistrySchema.Proofs.Snapshot.HandleRun

/-!
# The names of records

No kind is declared twice in a snapshot, but a report names kinds without the namespace that is left
out. A kind of that namespace is then named by its path, and a path may look like the written form
of a kind of another namespace. This is the only way in which two kinds get one name
(`nodup_names_ofSnapshot_iff`), and it takes a path with a colon.
-/

namespace RegistrySchema.Snapshot

/-! ## The kinds that have a record -/

/-- The block kinds that have a record, in order. -/
def reportedBlocks (snapshot : Snapshot) : List Identifier :=
  (BlockWalk.accessible snapshot.blocks).map BlockKind.id

/-- The entity kinds that have a record, in order: those that the factory is asked for and does not
refuse. -/
def reportedEntities (snapshot : Snapshot) (settings : Settings) : List Identifier :=
  (EntityWalk.asked settings snapshot.entityRegistry).filter fun kind =>
    (snapshot.create kind).toOption.isSome

/-- Block records have the names of their kinds. -/
theorem names_blocks_ofSnapshot (snapshot : Snapshot) (settings : Settings) :
    (Extraction.ofSnapshot snapshot settings).schema.blocks.map BlockRecord.name =
      snapshot.reportedBlocks.map settings.kindName := by
  show (BlockWalk.run _ settings Catalog.empty snapshot.blocks).records.map _ = _
  rw [BlockWalk.records_run, reportedBlocks, List.map_map, List.map_map]
  rfl

/-- Entity records have the names of their kinds. -/
theorem names_entities_ofSnapshot (snapshot : Snapshot) (settings : Settings) :
    (Extraction.ofSnapshot snapshot settings).schema.entities.map EntityRecord.name =
      (snapshot.reportedEntities settings).map settings.kindName := by
  show (EntityWalk.run _ snapshot.factory settings snapshot.entityRegistry).records.map _ = _
  rw [EntityWalk.records_run, List.map_filterMap, reportedEntities, ← List.filterMap_eq_map,
    List.filterMap_filter]
  -- The factory answers for a kind whenever there is an answer about its handle.
  refine List.filterMap_congr fun kind _ => ?_
  rw [factory]
  cases snapshot.create kind <;> rfl

/-- What is handed out of declared entries has the kinds of some of them, in order. -/
theorem sublist_map_of_entry {α β ε : Type} (entry : α → Except ε β) (kind : β → Identifier)
    (id : α → Identifier) (h : ∀ x y, entry x = .ok y → kind y = id x) (xs : List α) :
    (((xs.map entry).filterMap Except.toOption).map kind).Sublist (xs.map id) := by
  induction xs with
  | nil => exact List.Sublist.slnil
  | cons x xs ih =>
    rw [List.map_cons, List.map_cons]
    cases hentry : entry x with
    | error err => exact ih.cons _
    | ok y =>
      rw [← h x y hentry]
      exact ih.cons_cons _

variable {declared : Declarations} {snapshot : Snapshot}

theorem reportedBlocks_sublist (h : ofDeclarations declared = .ok snapshot) :
    snapshot.reportedBlocks.Sublist (declared.blocks.map DeclaredBlock.id) := by
  rw [reportedBlocks, BlockWalk.accessible, blocks_ofDeclarations h]
  apply sublist_map_of_entry
  intro block kind hkind
  rw [DeclaredBlock.entry] at hkind
  split at hkind
  · cases hkind
  · cases hkind
    rfl

theorem reportedEntities_sublist (h : ofDeclarations declared = .ok snapshot)
    (settings : Settings) :
    (snapshot.reportedEntities settings).Sublist (declared.entities.map DeclaredEntity.id) := by
  have hopen := sublist_map_of_entry DeclaredEntity.entry id DeclaredEntity.id
    (fun _ _ hkind => (DeclaredEntity.entry_eq_ok_iff.1 hkind).2.symm) declared.entities
  rw [← entityRegistry_ofDeclarations h, List.map_id] at hopen
  exact (List.filter_sublist.trans List.filter_sublist).trans hopen

/-! ## Names told apart -/

/-- In a report on a snapshot that was read from a text, two block kinds have one name exactly if
one of them is of the namespace that is left out and its path is the other in its written form; and
so for entity kinds. Then the path has a colon. -/
theorem nodup_names_ofSnapshot_iff {text : String} {snapshot : Snapshot}
    (h : ofText text = .ok snapshot) (settings : Settings) :
    let schema := (Extraction.ofSnapshot snapshot settings).schema
    ((schema.blocks.map BlockRecord.name).Nodup ↔
        ∀ a ∈ snapshot.reportedBlocks, ∀ b ∈ snapshot.reportedBlocks,
          ¬ Identifier.Collide settings.space a b) ∧
      ((schema.entities.map EntityRecord.name).Nodup ↔
        ∀ a ∈ snapshot.reportedEntities settings, ∀ b ∈ snapshot.reportedEntities settings,
          ¬ Identifier.Collide settings.space a b) ∧
      ∀ a b, Identifier.Collide settings.space a b → ':' ∈ a.path.toList := by
  obtain ⟨declared, hload, hblocks, hentities⟩ := exists_declarations_of_ofText h
  obtain ⟨hnodupBlocks, hnodupEntities, -⟩ := ofDeclarations_eq_ok_iff.1 hload
  have hsubBlocks := reportedBlocks_sublist hload
  have hsubEntities := reportedEntities_sublist hload settings
  intro schema
  refine ⟨?_, ?_, fun _ _ hcollide => hcollide.colon_mem_path⟩
  · rw [names_blocks_ofSnapshot]
    apply Identifier.nodup_map_stripped_iff (hnodupBlocks.sublist hsubBlocks)
    intro id hid
    obtain ⟨block, hblock, rfl⟩ := List.mem_map.1 (hsubBlocks.subset hid)
    exact hblocks block hblock
  · rw [names_entities_ofSnapshot]
    apply Identifier.nodup_map_stripped_iff (hnodupEntities.sublist hsubEntities)
    intro id hid
    obtain ⟨entity, hentity, rfl⟩ := List.mem_map.1 (hsubEntities.subset hid)
    exact hentities entity hentity

deriving instance DecidableEq for Declarations

/-- A block kind of the default namespace with a path that looks like the other kind. -/
def declaredCogs : Declarations where
  blocks := [⟨⟨"minecraft", "create:cog"⟩, [], false⟩, ⟨⟨"create", "cog"⟩, [], false⟩]
  entities := []
  classes := Catalog.empty
  root := defaultRoot

/-- The two kinds as a text. -/
def cogsText : String :=
  "\x7b\"blocks\":[\x7b\"id\":\"minecraft:create:cog\"\x7d,\x7b\"id\":\"create:cog\"\x7d]\x7d"

theorem ofText_cogsText : ofText cogsText = .ok (ofDistinct declaredCogs) := by
  have hdocument : Decode.document (Json.Document.ofText cogsText) = .ok declaredCogs := by
    decide +kernel
  rw [ofText, hdocument]
  rfl

/-- Names are not told apart in general: both kinds are named `create:cog`. -/
theorem not_nodup_names_ofSnapshot :
    ¬ ∀ (text : String) (snapshot : Snapshot) (settings : Settings), ofText text = .ok snapshot →
      let schema := (Extraction.ofSnapshot snapshot settings).schema
      (schema.blocks.map BlockRecord.name).Nodup ∧
        (schema.entities.map EntityRecord.name).Nodup := by
  intro hall
  obtain ⟨hblocks, -⟩ := hall cogsText _ {} ofText_cogsText
  have hnames : (Extraction.ofSnapshot (ofDistinct declaredCogs) {}).schema.blocks.map
      BlockRecord.name = ["create:cog", "create:cog"] := by decide +kernel
  rw [hnames] at hblocks
  exact absurd hblocks (by decide)

/-- With the other namespace left out the same kinds are told apart. -/
theorem nodup_names_ofSnapshot_iff_cogs :
    ofText cogsText = .ok (ofDistinct declaredCogs) ∧
      ¬ ((Extraction.ofSnapshot (ofDistinct declaredCogs) {}).schema.blocks.map
          BlockRecord.name).Nodup ∧
      ((Extraction.ofSnapshot (ofDistinct declaredCogs)
          { space := "create" }).schema.blocks.map BlockRecord.name).Nodup := by
  obtain ⟨hdefault, -⟩ := nodup_names_ofSnapshot_iff ofText_cogsText {}
  obtain ⟨hother, -⟩ := nodup_names_ofSnapshot_iff ofText_cogsText { space := "create" }
  have hkinds : (ofDistinct declaredCogs).reportedBlocks =
      [⟨"minecraft", "create:cog"⟩, ⟨"create", "cog"⟩] := rfl
  rw [hkinds] at hdefault hother
  refine ⟨ofText_cogsText, fun hnodup => ?_, hother.2 ?_⟩
  · exact hdefault.1 hnodup _ List.mem_cons_self _ (List.mem_cons_of_mem _ List.mem_cons_self)
      ⟨rfl, by decide, by decide⟩
  · simp only [Identifier.Collide]
    decide

end RegistrySchema.Snapshot
