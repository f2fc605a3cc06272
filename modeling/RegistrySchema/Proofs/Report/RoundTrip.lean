import RegistrySchema.Proofs.Report.Entries
import RegistrySchema.Proofs.Report.Lines

/-!
# Reading a written report

A report is read back as exactly the records that were written iff none of their texts holds a
line feed and every record is its own reading (`Schema.Fits`).

If the records are read back, then the texts stand on lines and hold no line feed; so the lines of
the text are the lines that were written, and each of them is read as its own record. If they fit,
the lines are read one by one, in the order of the sections.
-/

namespace RegistrySchema

open Report

namespace Schema

/-- What the records of a schema have to be for a report to be read back as these records. -/
structure Fits (schema : Schema) : Prop where
  /-- No name, property, tag, value, class or ancestor holds a line feed. -/
  no_lineFeed : ∀ record ∈ schema.records, ∀ text ∈ record.texts, '\n' ∉ text.toList
  /-- The names of blocks do not take part in a separator. -/
  block_name : ∀ r ∈ schema.blocks, NameFits r.name.toList
  /-- Nor do the names of enum types. -/
  enum_name : ∀ r ∈ schema.enumRecords, NameFits r.name.toList
  /-- Nor do the names of entities with a class. -/
  entity_name : ∀ r ∈ schema.entities, r.source ≠ none → NameFits r.name.toList
  /-- Nor do the classes in the class table. -/
  class_name : ∀ r ∈ schema.classRecords, NameFits r.source.text.toList
  /-- Properties and tags are words; properties hold no colon and tags are their own readings. -/
  pairs : ∀ r ∈ schema.blocks, ∀ pair ∈ r.properties, PairFits pair
  /-- The values of enum types are items of a list. -/
  values : ∀ r ∈ schema.enumRecords, ItemsFit r.values
  /-- So are the ancestors of classes. -/
  ancestors : ∀ r ∈ schema.classRecords, ItemsFit (r.ancestors.map SourcePath.text)
  /-- The name of an entity without a class holds no separator and does not end in white space. -/
  entity_alone : ∀ r ∈ schema.entities, r.source = none →
    ¬ nameSeparator <:+: r.name.toList ∧ Text.endsBlank r.name.toList = false
  /-- The class of an entity does not end in white space. -/
  entity_source : ∀ r ∈ schema.entities, ∀ source, r.source = some source →
    Text.endsBlank source.text.toList = false

/-- An entity record fits as its name alone, or as its name and its class. -/
theorem fits_entity_iff {record : EntityRecord} :
    (Record.entity record).Fits ↔
      (record.source ≠ none → NameFits record.name.toList) ∧
        (record.source = none → ¬ nameSeparator <:+: record.name.toList ∧
          Text.endsBlank record.name.toList = false) ∧
        ∀ source, record.source = some source → Text.endsBlank source.text.toList = false := by
  obtain ⟨name, source⟩ := record
  cases source <;> simp [Record.Fits]

/-- A schema fits iff every record does, and no text holds a line feed. -/
theorem fits_iff {schema : Schema} :
    schema.Fits ↔ (∀ record ∈ schema.records, ∀ text ∈ record.texts, '\n' ∉ text.toList) ∧
      ∀ record ∈ schema.records, record.Fits := by
  have hsplit : (∀ record ∈ schema.records, record.Fits) ↔
      (∀ r ∈ schema.blocks, (Record.block r).Fits) ∧
        (∀ r ∈ schema.enumRecords, (Record.enum r).Fits) ∧
        (∀ r ∈ schema.entities, (Record.entity r).Fits) ∧
        ∀ r ∈ schema.classRecords, (Record.lineage r).Fits := by
    simp only [records, List.forall_mem_append, List.forall_mem_map, and_assoc]
  rw [hsplit]
  constructor
  · intro h
    refine ⟨h.no_lineFeed, fun r hr => ⟨h.block_name r hr, h.pairs r hr⟩,
      fun r hr => ⟨h.enum_name r hr, h.values r hr⟩, fun r hr => ?_,
      fun r hr => ⟨h.class_name r hr, h.ancestors r hr⟩⟩
    exact fits_entity_iff.2 ⟨h.entity_name r hr, h.entity_alone r hr, h.entity_source r hr⟩
  · rintro ⟨hfeed, hblocks, henums, hentities, hclasses⟩
    exact {
      no_lineFeed := hfeed
      block_name := fun r hr => (hblocks r hr).1
      enum_name := fun r hr => (henums r hr).1
      entity_name := fun r hr => (fits_entity_iff.1 (hentities r hr)).1
      class_name := fun r hr => (hclasses r hr).1
      pairs := fun r hr => (hblocks r hr).2
      values := fun r hr => (henums r hr).2
      ancestors := fun r hr => (hclasses r hr).2
      entity_alone := fun r hr => (fits_entity_iff.1 (hentities r hr)).2.1
      entity_source := fun r hr => (fits_entity_iff.1 (hentities r hr)).2.2 }

instance (schema : Schema) : Decidable schema.Fits := decidable_of_iff _ fits_iff.symm

/-! ## Reading the report -/

/-- The records of a schema come in report order. -/
theorem pairwise_rank_records (schema : Schema) :
    (schema.records.map fun record => record.family.rank).Pairwise (· ≤ ·) := by
  rw [List.pairwise_map]
  have hfamily : ∀ {α : Type} (f : α → Record) (s : Section), (∀ a, (f a).family = s) →
      ∀ family : List α, (family.map f).Pairwise fun a b => a.family.rank ≤ b.family.rank := by
    intro α f s hf family
    rw [List.pairwise_map]
    refine List.pairwise_of_forall fun a b => ?_
    rw [hf, hf]
  simp only [records, List.pairwise_append, List.forall_mem_append, List.forall_mem_map]
  have hblocks := hfamily .block .blocks (fun _ => rfl) schema.blocks
  have henums := hfamily .enum .enums (fun _ => rfl) schema.enumRecords
  have hentities := hfamily .entity .entities (fun _ => rfl) schema.entities
  have hclasses := hfamily .lineage .classes (fun _ => rfl) schema.classRecords
  refine ⟨⟨⟨hblocks, henums, ?_⟩, hentities, ?_⟩, hclasses, ?_⟩ <;>
    simp [Record.family, Section.rank]

/-- Lines that yield records by themselves yield entries with these records. -/
theorem exists_entries {lines : List Line} {records : List Record}
    (h : List.Forall₂ (fun line record => readLine .blocks line.text = .ok record) lines records) :
    ∃ entries, List.Forall₂ ReadFrom lines entries ∧
      entries.map (·.record) = records ∧ entries.map (·.line) = lines.map Line.number := by
  induction h with
  | nil => exact ⟨[], List.Forall₂.nil, rfl, rfl⟩
  | @cons line record _ _ hread _ ih =>
    obtain ⟨entries, hentries, hrecords, hnumbers⟩ := ih
    refine ⟨⟨record, line.span, line.number⟩ :: entries, ?_, ?_, ?_⟩
    · exact List.Forall₂.cons ⟨hread, rfl, rfl⟩ hentries
    · rw [List.map_cons, hrecords]
    · rw [List.map_cons, List.map_cons, hnumbers]

/-- What stands on the line that a record is read from holds no line feed. -/
theorem no_lineFeed_of_readFrom {source : List Char} {entries : List (Located Record)}
    (h : List.Forall₂ ReadFrom (Line.written source) entries) {entry : Located Record}
    (hentry : entry ∈ entries) : ∀ text ∈ entry.record.texts, '\n' ∉ text.toList := by
  obtain ⟨line, hline, hread, -⟩ := exists_mem_of_forall₂ h hentry
  exact fun text htext hfeed =>
    not_mem_of_mem_written hline ((infix_of_readLine hread text htext).subset hfeed)

/-- The text of a report whose lines were changed. -/
def editedText (schema : Schema) (edit : List Char → List Char) : String :=
  String.ofList (linesText (schema.lines.map edit))

theorem editedText_id (schema : Schema) : schema.editedText id = schema.reportText := by
  rw [editedText, List.map_id, ← reportChars_eq, reportText]

/-- If the lines of a report, changed or not, yield its records, each line is read as its own
record. -/
theorem readLine_of_forall₂ {schema : Schema} {edit : List Char → List Char}
    (hedit : schema.KeepsLines edit) {entries : List (Located Record)}
    (hread : List.Forall₂ ReadFrom
      (Line.written (linesText (schema.lines.map edit))) entries)
    (hrecords : entries.map (·.record) = schema.records) :
    ∀ record ∈ schema.records,
      readLine .blocks (Text.dropEndWhile Line.isTerminator (edit record.line)) = .ok record := by
  obtain ⟨htexts, -⟩ := written_linesText_map hedit
  have hlines : List.Forall₂ (fun text record => readLine .blocks text = .ok record)
      ((Line.written (linesText (schema.lines.map edit))).map Line.text)
      (entries.map (·.record)) := by
    rw [List.forall₂_map_left_iff, List.forall₂_map_right_iff]
    exact hread.imp fun _ _ h => h.1
  rw [htexts, hrecords, List.forall₂_map_left_iff, List.forall₂_same] at hlines
  exact hlines

/-- If the lines of a report yield its records, each record is its own reading. -/
theorem fits_of_forall₂ {schema : Schema}
    (hfeed : ∀ record ∈ schema.records, ∀ text ∈ record.texts, '\n' ∉ text.toList)
    {entries : List (Located Record)}
    (hread : List.Forall₂ ReadFrom (Line.written schema.reportChars) entries)
    (hrecords : entries.map (·.record) = schema.records) :
    ∀ record ∈ schema.records, record.Fits := by
  have hedit := keepsLines_id fun r hr => lineFeed_not_mem_line (hfeed r hr)
  rw [reportChars_eq, ← List.map_id schema.lines] at hread
  exact fun record hmem =>
    readLine_line_iff.1 (readLine_of_forall₂ hedit hread hrecords record hmem)

/-- If every line of a report, changed or not, is read as a record of its family, the text is read,
and has what the lines yield. -/
theorem exists_parse_editedText {schema : Schema} {edit : List Char → List Char}
    (hedit : schema.KeepsLines edit) (reread : Record → Record)
    (hfamily : ∀ record ∈ schema.records, (reread record).family = record.family)
    (hreread : ∀ record ∈ schema.records,
      readLine .blocks (Text.dropEndWhile Line.isTerminator (edit record.line)) =
        .ok (reread record)) :
    ∃ report, Report.parse (schema.editedText edit) = .ok report ∧
      report.entries.map (·.record) = schema.records.map reread ∧
      report.entries.map (·.line) = schema.lineNumbers := by
  obtain ⟨htexts, hnumbers⟩ := written_linesText_map hedit
  have hlines : List.Forall₂ (fun line record => readLine .blocks line.text = .ok record)
      (Line.written (linesText (schema.lines.map edit))) (schema.records.map reread) := by
    have hsame : List.Forall₂ (fun text record => readLine .blocks text = .ok record)
        ((Line.written (linesText (schema.lines.map edit))).map Line.text)
        (schema.records.map reread) := by
      rw [htexts, List.forall₂_map_left_iff, List.forall₂_map_right_iff, List.forall₂_same]
      exact hreread
    rwa [List.forall₂_map_left_iff] at hsame
  obtain ⟨entries, hread, hrecords, hentries⟩ := exists_entries hlines
  have hsorted : (entries.map familyRank).Pairwise (· ≤ ·) := by
    have hranks : entries.map familyRank =
        schema.records.map fun record => record.family.rank :=
      calc entries.map familyRank
          = (entries.map (·.record)).map fun record => record.family.rank := by
            rw [List.map_map]
            rfl
        _ = schema.records.map fun record => (reread record).family.rank := by
            rw [hrecords, List.map_map]
            rfl
        _ = schema.records.map fun record => record.family.rank :=
            List.map_congr_left fun record hmem => congrArg Section.rank (hfamily record hmem)
    rw [hranks]
    exact pairwise_rank_records schema
  have hsource : (schema.editedText edit).toList = linesText (schema.lines.map edit) :=
    String.toList_ofList
  refine ⟨ofEntries entries, parse_eq_ok_iff.2 ⟨entries, hsource ▸ hread, hsorted, rfl⟩, ?_, ?_⟩
  · rw [entries_ofEntries hsorted, hrecords]
  · rw [entries_ofEntries hsorted, hentries, hnumbers]

/-- If every line that is written is read, the report is read, and has what the lines yield. -/
theorem exists_parse_of_readLine {schema : Schema} (reread : Record → Record)
    (hfeed : ∀ record ∈ schema.records, '\n' ∉ record.line)
    (hreread : ∀ record ∈ schema.records,
      readLine .blocks (Text.dropEndWhile Line.isTerminator record.line) = .ok (reread record)) :
    ∃ report, Report.parse schema.reportText = .ok report ∧
      report.entries.map (·.record) = schema.records.map reread ∧
      report.entries.map (·.line) = schema.lineNumbers := by
  rw [← editedText_id]
  -- A line is read as a record of the section that it was written for.
  exact exists_parse_editedText (keepsLines_id hfeed) reread
    (fun record hmem => family_of_readLine_line (hreread record hmem)) hreread

/-- The report of a schema that fits is read as a report that lists the schema, and the records
keep the numbers of their lines. -/
theorem exists_parse_of_fits {schema : Schema} (h : schema.Fits) :
    ∃ report, Report.parse schema.reportText = .ok report ∧ report.Lists schema ∧
      report.entries.map (·.line) = schema.lineNumbers := by
  obtain ⟨hfeed, hfits⟩ := fits_iff.1 h
  obtain ⟨report, hparse, hrecords, hnumbers⟩ :=
    exists_parse_of_readLine id (fun r hr => lineFeed_not_mem_line (hfeed r hr))
      fun record hmem => readLine_line_iff.2 (hfits record hmem)
  rw [List.map_id] at hrecords
  exact ⟨report, hparse, lists_iff.2 hrecords, hnumbers⟩

/-- A report is read back as exactly the records that were written, in all four families and in
order, iff the schema fits. The records then keep the numbers of their lines: the sections follow
each other with one empty line between them. -/
theorem parse_reportText_lists_iff (schema : Schema) :
    ((∃ report, Report.parse schema.reportText = .ok report ∧ report.Lists schema) ↔
        schema.Fits) ∧
      (schema.Fits → ∃ report, Report.parse schema.reportText = .ok report ∧
        report.Lists schema ∧ report.entries.map (·.line) = schema.lineNumbers) := by
  refine ⟨⟨?_, fun h => ?_⟩, exists_parse_of_fits⟩
  · rintro ⟨report, hparse, hlists⟩
    -- Texts that were read from lines hold no line feed, so the lines are those that were written.
    have hread := forall₂_entries_of_parse hparse
    rw [reportText, String.toList_ofList] at hread
    rw [lists_iff] at hlists
    have hfeed : ∀ record ∈ schema.records, ∀ text ∈ record.texts, '\n' ∉ text.toList := by
      intro record hmem
      rw [← hlists] at hmem
      obtain ⟨entry, hentry, rfl⟩ := List.mem_map.1 hmem
      exact no_lineFeed_of_readFrom hread hentry
    exact fits_iff.2 ⟨hfeed, fits_of_forall₂ hfeed hread hlists⟩
  · obtain ⟨report, hparse, hlists, -⟩ := exists_parse_of_fits h
    exact ⟨report, hparse, hlists⟩

/-- Names with dashes and spaces at their ends, empty payloads, and white space everywhere but at
the end of a list: the whole schema is read back. -/
def borderline : Schema where
  blocks := [⟨"a -b- ", []⟩, ⟨"", [("", .named ""), ("-", .unclassified), ("x", .named ":u8")]⟩]
  enums := ⟨[("e --", ["a b ", " c"]), (" ", [])], by decide⟩
  entities := [⟨"- -", none⟩, ⟨"", none⟩, ⟨" p ", some ⟨""⟩⟩, ⟨"q", some ⟨" - r"⟩⟩]
  classes := ⟨[(⟨""⟩, []), (⟨"k"⟩, [⟨" "⟩, ⟨"- "⟩, ⟨" m"⟩])], by decide⟩

theorem parse_reportText_lists_borderline :
    borderline.Fits ∧ ∃ report, Report.parse borderline.reportText = .ok report ∧
      report.Lists borderline ∧ report.entries.map (·.line) = [1, 2, 4, 5, 7, 8, 9, 10, 12, 13] :=
  have hfits : borderline.Fits := by decide
  ⟨hfits, (parse_reportText_lists_iff borderline).2 hfits⟩

end Schema

end RegistrySchema
