import RegistrySchema.Proofs.Report.Records

/-!
# The entries of a report

Reading looks at each line by itself, but for the order of the sections: the lines yield their
records one by one, and the ranks of the families never fall. So the four families of a report,
put one behind the other, are the records in the order of the lines.

* `readLines_eq_ok_iff`: what lines have to be for entries to be read from them.
* `entries_ofEntries`: sorting entries into families loses nothing, if they come in report order.
-/

namespace RegistrySchema

open Report

/-- Apply a function to what is located. -/
def Located.map {α β : Type} (f : α → β) (entry : Located α) : Located β :=
  ⟨f entry.record, entry.span, entry.line⟩

/-- All entries of a report, family by family. -/
def Report.entries (report : Report) : List (Located Record) :=
  report.blocks.map (Located.map .block) ++ report.enums.map (Located.map .enum)
    ++ report.entities.map (Located.map .entity) ++ report.classes.map (Located.map .lineage)

/-- All records of a schema, family by family. -/
def Schema.records (schema : Schema) : List Record :=
  schema.blocks.map .block ++ schema.enumRecords.map .enum ++ schema.entities.map .entity
    ++ schema.classRecords.map .lineage

/-- A report lists a schema if it has exactly the schema's records in all four families, in
order. -/
structure Report.Lists (report : Report) (schema : Schema) : Prop where
  /-- The block records. -/
  blocks : report.blocks.map (·.record) = schema.blocks
  /-- The enum records. -/
  enums : report.enums.map (·.record) = schema.enumRecords
  /-- The entity records. -/
  entities : report.entities.map (·.record) = schema.entities
  /-- The class records. -/
  classes : report.classes.map (·.record) = schema.classRecords

namespace Report

/-- The place of an entry's family in a report. -/
def familyRank (entry : Located Record) : Nat := entry.record.family.rank

/-! ## Lines -/

/-- An entry is read from a line if the line by itself yields the record, and the entry has the
line's place. -/
def ReadFrom (line : Line) (entry : Located Record) : Prop :=
  readLine .blocks line.text = .ok entry.record ∧ entry.span = line.span ∧
    entry.line = line.number

/-- The sections reached so far only decide whether a record is refused. -/
theorem readLine_eq_ok_iff_blocks {current : Section} {text : List Char} {record : Record} :
    readLine current text = .ok record ↔
      current.rank ≤ record.family.rank ∧ readLine .blocks text = .ok record := by
  have hzero : Section.rank .blocks ≤ record.family.rank := Nat.zero_le _
  rw [readLine_eq_ok_iff, readLine_eq_ok_iff, and_iff_right hzero]

/-- Lines are read iff each of them yields an entry and no entry belongs in front of the section
that was reached before it. -/
theorem readLines_eq_ok_iff {current : Section} {lines : List Line}
    {entries : List (Located Record)} :
    readLines current lines = .ok entries ↔
      List.Forall₂ ReadFrom lines entries ∧
        (current.rank :: entries.map familyRank).Pairwise (· ≤ ·) := by
  induction lines generalizing current entries with
  | nil =>
    rw [readLines, Except.ok.injEq, List.forall₂_nil_left_iff]
    constructor
    · rintro rfl
      exact ⟨rfl, List.pairwise_singleton _ _⟩
    · exact fun h => h.1.symm
  | cons line lines ih =>
    rw [List.forall₂_cons_left_iff]
    constructor
    · intro h
      unfold readLines at h
      split at h
      · cases h
      · next record hrecord =>
        cases hothers : readLines record.family lines with
        | error fault =>
          rw [hothers] at h
          cases h
        | ok others =>
          rw [hothers] at h
          cases h
          obtain ⟨hread, hsorted⟩ := ih.1 hothers
          obtain ⟨hrank, hfree⟩ := readLine_eq_ok_iff_blocks.1 hrecord
          refine ⟨⟨_, others, ⟨hfree, rfl, rfl⟩, hread, rfl⟩, ?_⟩
          refine List.pairwise_cons.2 ⟨fun rank hmem => ?_, hsorted⟩
          rcases List.mem_cons.1 hmem with rfl | hmem
          · exact hrank
          · exact hrank.trans ((List.pairwise_cons.1 hsorted).1 rank hmem)
    · rintro ⟨⟨⟨record, span, number⟩, others, ⟨hfree, rfl, rfl⟩, hread, rfl⟩, hsorted⟩
      obtain ⟨hfirst, hsorted⟩ := List.pairwise_cons.1 hsorted
      have hrecord := readLine_eq_ok_iff_blocks.2 ⟨hfirst _ List.mem_cons_self, hfree⟩
      have hothers := ih.2 ⟨hread, hsorted⟩
      simp only at hothers
      simp only [readLines, hrecord, hothers, bind, Except.bind, pure, Except.pure]

/-! ## Families -/

/-- A family in front of the section that all entries have reached is empty. -/
theorem eq_nil_of_rank_lt {α : Type} {f : α → Record} (s reached : Section)
    (hf : ∀ a, (f a).family = s) {family : List (Located α)} (hlt : s.rank < reached.rank)
    (h : ∀ entry ∈ family.map (Located.map f), reached.rank ≤ familyRank entry) :
    family = [] := by
  rw [List.eq_nil_iff_forall_not_mem]
  intro entry hmem
  have hle := h _ (List.mem_map_of_mem hmem)
  rw [familyRank, Located.map, hf] at hle
  omega

/-- Entries that come in report order are the entries of the report that they make. -/
theorem entries_ofEntries {entries : List (Located Record)}
    (h : (entries.map familyRank).Pairwise (· ≤ ·)) : (ofEntries entries).entries = entries := by
  induction entries with
  | nil => rfl
  | cons entry others ih =>
    rw [List.map_cons, List.pairwise_cons] at h
    have hothers := ih h.2
    have hrank : ∀ other ∈ (ofEntries others).entries, familyRank entry ≤ familyRank other := by
      rw [hothers]
      exact fun other hmem => h.1 _ (List.mem_map_of_mem hmem)
    have hcons : ofEntries (entry :: others) = cons entry (ofEntries others) := rfl
    rw [hcons]
    conv_rhs => rw [← hothers]
    -- Of the report of the others only its entries matter, none of which belongs further up.
    generalize ofEntries others = report at hrank
    simp only [entries, List.forall_mem_append] at hrank
    obtain ⟨⟨⟨hblocks, henums⟩, hentities⟩, -⟩ := hrank
    -- The entry goes in front of its family, and the families before that one are empty.
    obtain ⟨record, span, number⟩ := entry
    cases record with
    | block r => rfl
    | enum r =>
      have hnil := eq_nil_of_rank_lt .blocks .enums (fun _ => rfl) (by decide) hblocks
      simp [cons, entries, hnil, Located.map]
    | entity r =>
      have hnil := eq_nil_of_rank_lt .blocks .entities (fun _ => rfl) (by decide) hblocks
      have hnil' := eq_nil_of_rank_lt .enums .entities (fun _ => rfl) (by decide) henums
      simp [cons, entries, hnil, hnil', Located.map]
    | lineage r =>
      have hnil := eq_nil_of_rank_lt .blocks .classes (fun _ => rfl) (by decide) hblocks
      have hnil' := eq_nil_of_rank_lt .enums .classes (fun _ => rfl) (by decide) henums
      have hnil'' := eq_nil_of_rank_lt .entities .classes (fun _ => rfl) (by decide) hentities
      simp [cons, entries, hnil, hnil', hnil'', Located.map]

/-- No section is in front of the first one. -/
theorem pairwise_rank_blocks_cons_iff {ranks : List Nat} :
    (Section.rank .blocks :: ranks).Pairwise (· ≤ ·) ↔ ranks.Pairwise (· ≤ ·) :=
  List.pairwise_cons.trans (and_iff_right fun _ _ => Nat.zero_le _)

/-- A text is read as a report iff the report's entries are what its lines yield, in report
order. -/
theorem parse_eq_ok_iff {source : String} {report : Report} :
    parse source = .ok report ↔
      ∃ entries, List.Forall₂ ReadFrom (Line.written source.toList) entries ∧
        (entries.map familyRank).Pairwise (· ≤ ·) ∧ ofEntries entries = report := by
  unfold parse
  cases hlines : readLines .blocks (Line.written source.toList) with
  | error fault =>
    simp only [Except.map, reduceCtorEq, false_iff, not_exists, not_and]
    intro entries hread hrank
    rw [readLines_eq_ok_iff.2 ⟨hread, pairwise_rank_blocks_cons_iff.2 hrank⟩] at hlines
    cases hlines
  | ok found =>
    -- The lines yield these entries and no others.
    obtain ⟨hread, hrank⟩ := readLines_eq_ok_iff.1 hlines
    simp only [Except.map, Except.ok.injEq]
    constructor
    · rintro rfl
      exact ⟨found, hread, pairwise_rank_blocks_cons_iff.1 hrank, rfl⟩
    · rintro ⟨entries, hread', hrank', rfl⟩
      rw [readLines_eq_ok_iff.2 ⟨hread', pairwise_rank_blocks_cons_iff.2 hrank'⟩,
        Except.ok.injEq] at hlines
      rw [hlines]

/-- The entries of a report that is read are what the lines yield. -/
theorem forall₂_entries_of_parse {source : String} {report : Report}
    (h : parse source = .ok report) :
    List.Forall₂ ReadFrom (Line.written source.toList) report.entries := by
  obtain ⟨entries, hread, hrank, rfl⟩ := parse_eq_ok_iff.1 h
  rwa [entries_ofEntries hrank]

/-! ## Records -/

/-- The family of a section is found among all records. -/
theorem filter_family (blocks : List BlockRecord) (enums : List EnumRecord)
    (entities : List EntityRecord) (classes : List ClassRecord) (s : Section) :
    (blocks.map Record.block ++ enums.map Record.enum ++ entities.map Record.entity
        ++ classes.map Record.lineage).filter (fun record => decide (record.family = s)) =
      match s with
      | .blocks => blocks.map Record.block
      | .enums => enums.map Record.enum
      | .entities => entities.map Record.entity
      | .classes => classes.map Record.lineage := by
  cases s <;> simp [List.filter_map, Function.comp_def, Record.family]

/-- Records of different families are different, so the families can be told apart. -/
theorem append_families_inj {blocks blocks' : List BlockRecord} {enums enums' : List EnumRecord}
    {entities entities' : List EntityRecord} {classes classes' : List ClassRecord} :
    blocks.map Record.block ++ enums.map Record.enum ++ entities.map Record.entity
          ++ classes.map Record.lineage =
        blocks'.map Record.block ++ enums'.map Record.enum ++ entities'.map Record.entity
          ++ classes'.map Record.lineage ↔
      blocks = blocks' ∧ enums = enums' ∧ entities = entities' ∧ classes = classes' := by
  constructor
  · intro h
    have hfamily := fun s : Section => congrArg (List.filter fun r => decide (r.family = s)) h
    simp only [filter_family] at hfamily
    exact ⟨List.map_injective_iff.2 (fun _ _ => Record.block.inj) (hfamily .blocks),
      List.map_injective_iff.2 (fun _ _ => Record.enum.inj) (hfamily .enums),
      List.map_injective_iff.2 (fun _ _ => Record.entity.inj) (hfamily .entities),
      List.map_injective_iff.2 (fun _ _ => Record.lineage.inj) (hfamily .classes)⟩
  · rintro ⟨rfl, rfl, rfl, rfl⟩
    rfl

/-- The records of the entries, family by family. -/
theorem map_record_entries (report : Report) :
    report.entries.map (·.record) =
      (report.blocks.map (·.record)).map Record.block
        ++ (report.enums.map (·.record)).map Record.enum
        ++ (report.entities.map (·.record)).map Record.entity
        ++ (report.classes.map (·.record)).map Record.lineage := by
  simp [entries, Located.map, Function.comp_def]

/-- A report lists a schema iff its entries are the schema's records. -/
theorem lists_iff {report : Report} {schema : Schema} :
    report.Lists schema ↔ report.entries.map (·.record) = schema.records := by
  rw [map_record_entries, Schema.records, append_families_inj]
  constructor
  · rintro ⟨hblocks, henums, hentities, hclasses⟩
    exact ⟨hblocks, henums, hentities, hclasses⟩
  · rintro ⟨hblocks, henums, hentities, hclasses⟩
    exact ⟨hblocks, henums, hentities, hclasses⟩

end Report

end RegistrySchema
