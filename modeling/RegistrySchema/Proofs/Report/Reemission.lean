import RegistrySchema.Proofs.Catalog
import RegistrySchema.Proofs.Report.RoundTrip
import RegistrySchema.Report.Check

/-!
# Writing again what was read

What a reader makes of a text, however irregular, is written as a report and read again. Names,
properties, tags, entities and classes cannot make a separator that was not there, so they come
back as they are. A list loses the white space at its end, which the reader of the first text may
have kept behind a comma: `ENUMINFO --- E - a ,` has the value `a` with a space.

* `readLine_line_of_readLine`: what comes back of a record that was read.
* `exists_parse_schema`: what comes back of a report.
-/

namespace RegistrySchema

open Report

/-- An enum record with its values trimmed. -/
def EnumRecord.trimmed (record : EnumRecord) : EnumRecord :=
  { record with values := trimmedItems record.values }

/-- A class record with its ancestors trimmed. -/
def ClassRecord.trimmed (record : ClassRecord) : ClassRecord :=
  { record with ancestors := (trimmedItems (record.ancestors.map SourcePath.text)).map .mk }

/-- The list of a record, if it has one. -/
def Record.items : Record → List String
  | block _ | entity _ => []
  | enum r => r.values
  | lineage r => r.ancestors.map SourcePath.text

/-- A record with its list trimmed, if it has one. -/
def Record.trimmed : Record → Record
  | block r => block r
  | enum r => enum r.trimmed
  | entity r => entity r
  | lineage r => lineage r.trimmed

namespace Report

/-- The schema of a report: enum types and classes are entered in the order of the report. -/
def schema (report : Report) : Schema where
  blocks := report.blocks.map (·.record)
  enums := Catalog.ofList (report.enums.map fun entry => (entry.record.name, entry.record.values))
  entities := report.entities.map (·.record)
  classes := Catalog.ofList
    (report.classes.map fun entry => (entry.record.source, entry.record.ancestors))

/-- Two reports have the same records in all four families; places do not count. -/
structure SameRecords (report other : Report) : Prop where
  blocks : report.blocks.map (·.record) = other.blocks.map (·.record)
  enums : report.enums.map (·.record) = other.enums.map (·.record)
  entities : report.entities.map (·.record) = other.entities.map (·.record)
  classes : report.classes.map (·.record) = other.classes.map (·.record)

/-! ## Records -/

/-- The items of a record that is read are not empty and hold no comma. -/
theorem of_mem_items_of_readLine {text : List Char} {record : Record}
    (h : readLine .blocks text = .ok record) :
    ∀ item ∈ record.items, item ≠ "" ∧ listSeparator ∉ item.toList := by
  obtain ⟨-, body, -, hbody⟩ := readLine_eq_ok_iff.1 h
  cases record with
  | block r => exact List.forall_mem_nil _
  | enum r =>
    cases hbody
    have hvalues : (listItems (splitName body).2).map String.ofList = (readEnum body).values := rfl
    exact of_mem_map_listItems hvalues
  | entity r => exact List.forall_mem_nil _
  | lineage r =>
    cases hbody
    have htexts : (listItems (splitName body).2).map String.ofList =
        (readClass body).ancestors.map SourcePath.text := by
      rw [readClass, List.map_map]
      rfl
    exact of_mem_map_listItems htexts

/-- Nothing is lost of a record iff its list does not end in white space. -/
theorem trimmed_eq_self_iff {record : Record} (hne : ∀ item ∈ record.items, item ≠ "") :
    record.trimmed = record ↔
      ∀ last ∈ record.items.getLast?, Text.endsBlank last.toList = false := by
  rw [← trimmedItems_eq_self_iff hne]
  cases record with
  | block r | entity r => exact iff_of_true rfl rfl
  | enum r =>
    obtain ⟨name, values⟩ := r
    simp [Record.trimmed, EnumRecord.trimmed, Record.items]
  | lineage r =>
    obtain ⟨source, ancestors⟩ := r
    -- Ancestors are told apart by their texts.
    have hinj : Function.Injective SourcePath.text := fun a b h => SourcePath.mk.injEq .. ▸ h
    rw [Record.trimmed, Record.lineage.injEq, ClassRecord.trimmed, ClassRecord.mk.injEq,
      and_iff_right rfl, Record.items, ← List.map_inj_right hinj, List.map_map]
    exact Eq.congr_left (List.map_id _)

/-- A block that is read is its own reading. -/
theorem fits_of_readBlock {body : List Char} {record : BlockRecord}
    (h : readBlock body = .ok record) : (Record.block record).Fits := by
  obtain ⟨hname, hpairs⟩ := readBlock_eq_ok_iff.1 h
  exact ⟨nameFits_of_eq hname.symm, (mapM_readPair_eq_ok_iff.1 hpairs).2⟩

theorem endsBlank_trimEnd (cs : List Char) : Text.endsBlank (Text.trimEnd cs) = false :=
  Text.trimEnd_eq_self_iff.1 (Text.trimEnd_dropEndWhile (fun _ => id) cs)

theorem fits_of_readEntity (body : List Char) : (Record.entity (readEntity body)).Fits := by
  -- The name is cut at the first separator or else trimmed, and a class is always trimmed.
  rcases readEntity_cases body with ⟨name, payload, rfl, hfits⟩ | hnone
  · rw [readEntity_append hfits, Record.Fits, String.toList_ofList, String.toList_ofList]
    exact ⟨hfits, endsBlank_trimEnd payload⟩
  · rw [readEntity_of_no_separator hnone, Record.Fits, String.toList_ofList]
    exact ⟨fun h => hnone (h.trans (Text.isPrefix_dropEndWhile _ _).isInfix),
      endsBlank_trimEnd body⟩

/-- A name and a list behind it come back as they are written, up to the end of the list. -/
theorem readEnum_body_eq_trimmed {record : EnumRecord} (hname : NameFits record.name.toList)
    (hitems : (listItems (listText record.values)).map String.ofList =
      trimmedItems record.values) :
    readEnum (Text.dropEndWhile Line.isTerminator (Record.enum record).body) = record.trimmed := by
  rw [Record.body, dropEndWhile_isTerminator_append, readEnum, splitName_append hname]
  dsimp only
  rw [listItems_dropEndWhile, hitems, String.ofList_toList, EnumRecord.trimmed]

theorem readClass_body_eq_trimmed {record : ClassRecord}
    (hname : NameFits record.source.text.toList)
    (hitems : (listItems (listText (record.ancestors.map SourcePath.text))).map String.ofList =
      trimmedItems (record.ancestors.map SourcePath.text)) :
    readClass (Text.dropEndWhile Line.isTerminator (Record.lineage record).body) =
      record.trimmed := by
  rw [Record.body, dropEndWhile_isTerminator_append, readClass, splitName_append hname]
  dsimp only
  rw [listItems_dropEndWhile, String.ofList_toList, ClassRecord.trimmed, ← hitems, List.map_map]
  rfl

/-- A record that was read is written on a line that is read as the record with its list
trimmed. -/
theorem readLine_line_of_readLine {text : List Char} {record : Record}
    (h : readLine .blocks text = .ok record) :
    readLine .blocks (Text.dropEndWhile Line.isTerminator record.line) = .ok record.trimmed := by
  have hlist := of_mem_items_of_readLine h
  have hitems := listItems_listText_eq_trimmedItems (fun item hmem => (hlist item hmem).1)
    fun item hmem => (hlist item hmem).2
  obtain ⟨-, body, -, hbody⟩ := readLine_eq_ok_iff.1 h
  -- Records without a list are their own readings, the others up to the end of the list.
  cases record with
  | block r => exact readLine_line_iff.2 (fits_of_readBlock (readBody_blocks_eq_ok_iff.1 hbody))
  | enum r =>
    cases hbody
    have hread := readEnum_body_eq_trimmed (nameFits_of_eq rfl) hitems
    exact readLine_eq_ok_iff.2
      ⟨Nat.zero_le _, _, dropEndWhile_line _, congrArg (Except.ok ∘ Record.enum) hread⟩
  | entity r =>
    cases hbody
    exact readLine_line_iff.2 (fits_of_readEntity body)
  | lineage r =>
    cases hbody
    have hread := readClass_body_eq_trimmed (nameFits_of_eq rfl) hitems
    exact readLine_eq_ok_iff.2
      ⟨Nat.zero_le _, _, dropEndWhile_line _, congrArg (Except.ok ∘ Record.lineage) hread⟩

/-! ## Reports -/

/-- A report without repeated names lists its schema. -/
theorem lists_schema {report : Report} (henums : report.enumNames.Nodup)
    (hclasses : report.definedClasses.Nodup) : report.Lists report.schema where
  blocks := rfl
  enums := by
    have hkeys : ((report.enums.map fun entry =>
        (entry.record.name, entry.record.values)).map Prod.fst).Nodup := by
      rw [List.map_map]
      exact henums
    rw [Schema.enumRecords, schema, Catalog.entries_ofList_of_nodup hkeys, List.map_map]
    rfl
  entities := rfl
  classes := by
    have hkeys : ((report.classes.map fun entry =>
        (entry.record.source, entry.record.ancestors)).map Prod.fst).Nodup := by
      rw [List.map_map]
      exact hclasses
    rw [Schema.classRecords, schema, Catalog.entries_ofList_of_nodup hkeys, List.map_map]
    rfl

theorem sameRecords_iff {report other : Report} :
    report.SameRecords other ↔
      report.entries.map (·.record) = other.entries.map (·.record) := by
  rw [map_record_entries, map_record_entries, append_families_inj]
  constructor
  · exact fun h => ⟨h.blocks, h.enums, h.entities, h.classes⟩
  · rintro ⟨hblocks, henums, hentities, hclasses⟩
    exact ⟨hblocks, henums, hentities, hclasses⟩

/-- A report that was read comes back with its lists trimmed. -/
theorem exists_parse_schema {source : String} {report : Report}
    (hparse : parse source = .ok report) (henums : report.enumNames.Nodup)
    (hclasses : report.definedClasses.Nodup) :
    ∃ again, parse report.schema.reportText = .ok again ∧
      again.entries.map (·.record) = report.entries.map (·.record.trimmed) := by
  have hlists := lists_iff.1 (lists_schema henums hclasses)
  have hentries := forall₂_entries_of_parse hparse
  -- Every record of the schema was read from a line, so it holds no line feed.
  have hread : ∀ record ∈ report.schema.records, '\n' ∉ record.line ∧
      readLine .blocks (Text.dropEndWhile Line.isTerminator record.line) =
        .ok record.trimmed := by
    rw [← hlists, List.forall_mem_map]
    intro entry hentry
    obtain ⟨line, -, hfrom⟩ := exists_mem_of_forall₂ hentries hentry
    exact ⟨lineFeed_not_mem_line (Schema.no_lineFeed_of_readFrom hentries hentry),
      readLine_line_of_readLine hfrom.1⟩
  obtain ⟨again, hagain, hrecords, -⟩ := Schema.exists_parse_of_readLine Record.trimmed
    (fun record hmem => (hread record hmem).1) fun record hmem => (hread record hmem).2
  rw [← hlists, List.map_map] at hrecords
  exact ⟨again, hagain, hrecords⟩

/-- Trimming changes no record of a report that was read iff no list in it ends in white space. -/
theorem forall_trimmed_eq_self_iff {source : String} {report : Report}
    (hparse : parse source = .ok report) :
    (∀ entry ∈ report.entries, entry.record.trimmed = entry.record) ↔
      (∀ entry ∈ report.enums, ∀ last ∈ entry.record.values.getLast?,
        Text.endsBlank last.toList = false) ∧
      ∀ entry ∈ report.classes, ∀ last ∈ entry.record.ancestors.getLast?,
        Text.endsBlank last.text.toList = false := by
  have hentries := forall₂_entries_of_parse hparse
  have hitems : (∀ entry ∈ report.entries, entry.record.trimmed = entry.record) ↔
      ∀ entry ∈ report.entries, ∀ last ∈ entry.record.items.getLast?,
        Text.endsBlank last.toList = false := by
    refine forall₂_congr fun entry hentry => ?_
    obtain ⟨line, -, hfrom⟩ := exists_mem_of_forall₂ hentries hentry
    exact trimmed_eq_self_iff fun item hmem => (of_mem_items_of_readLine hfrom.1 item hmem).1
  rw [hitems]
  simp only [entries, List.forall_mem_append, List.forall_mem_map, Located.map, Record.items]
  simp

/-- A report that was read from a text, however irregular, is written and read again as the same
report iff no list in it ends in white space. In any case it is read again; all blocks, all
entities, the names of all enum types and all classes are the same, and the lists are trimmed. -/
theorem parse_schema_reportText {source : String} {report : Report}
    (hparse : parse source = .ok report) (henums : report.enumNames.Nodup)
    (hclasses : report.definedClasses.Nodup) :
    ((∃ again, parse report.schema.reportText = .ok again ∧ again.SameRecords report) ↔
      (∀ entry ∈ report.enums, ∀ last ∈ entry.record.values.getLast?,
        Text.endsBlank last.toList = false) ∧
      ∀ entry ∈ report.classes, ∀ last ∈ entry.record.ancestors.getLast?,
        Text.endsBlank last.text.toList = false) ∧
    ∃ again, parse report.schema.reportText = .ok again ∧
      again.blocks.map (·.record) = report.blocks.map (·.record) ∧
      again.enums.map (·.record) = report.enums.map (·.record.trimmed) ∧
      again.entities.map (·.record) = report.entities.map (·.record) ∧
      again.classes.map (·.record) = report.classes.map (·.record.trimmed) := by
  obtain ⟨again, hagain, hrecords⟩ := exists_parse_schema hparse henums hclasses
  refine ⟨?_, again, hagain, ?_⟩
  · -- There is one reading only, and it is the same report iff trimming changes no record.
    rw [← forall_trimmed_eq_self_iff hparse, ← List.map_inj_left, ← hrecords]
    constructor
    · rintro ⟨found, hfound, hsame⟩
      rw [hagain, Except.ok.injEq] at hfound
      rw [hfound]
      exact sameRecords_iff.1 hsame
    · exact fun hsame => ⟨again, hagain, sameRecords_iff.2 hsame⟩
  · rw [← append_families_inj, ← map_record_entries, hrecords]
    simp [entries, Located.map, Record.trimmed, Function.comp_def]

/-- A name of spaces, a pair with two colons, a dash without a payload, empty items, and a comma
that shields a space from being trimmed. -/
def shielded : String :=
  "BLOCKINFO ---   -  :p q:r:s \r\nENUMINFO --- Foo - a ,\nENUMINFO --- Bar -\n\n"
    ++ "ENTITYINFO --- x -\nENTITYCLASSINFO --- K - m,,n \n"

/-- Only the space before the comma is lost. -/
theorem parse_schema_reportText_shielded :
    ∃ report, parse shielded = .ok report ∧
      ¬ (∃ again, parse report.schema.reportText = .ok again ∧ again.SameRecords report) ∧
      ∃ again, parse report.schema.reportText = .ok again ∧
        again.blocks.map (·.record) = report.blocks.map (·.record) ∧
        again.enums.map (·.record) = [⟨"Foo", ["a"]⟩, ⟨"Bar", []⟩] ∧
        again.entities.map (·.record) = report.entities.map (·.record) ∧
        again.classes.map (·.record) = report.classes.map (·.record) := by
  let report : Report :=
    ⟨[⟨⟨" ", [("", .named "p"), ("q", .named "r:s")]⟩, ⟨0, 28⟩, 1⟩],
      [⟨⟨"Foo", ["a "]⟩, ⟨30, 52⟩, 2⟩, ⟨⟨"Bar", []⟩, ⟨53, 71⟩, 3⟩],
      [⟨⟨"x -", none⟩, ⟨73, 91⟩, 5⟩],
      [⟨⟨⟨"K"⟩, [⟨"m"⟩, ⟨"n"⟩]⟩, ⟨92, 121⟩, 6⟩]⟩
  have hparse : parse shielded = .ok report := by decide +kernel
  obtain ⟨hsame, again, hagain, hblocks, henums, hentities, hclasses⟩ :=
    parse_schema_reportText hparse (by decide +kernel) (by decide +kernel)
  refine ⟨report, hparse, ?_, again, hagain, hblocks, henums.trans (by decide +kernel), hentities,
    hclasses.trans (by decide +kernel)⟩
  rw [hsame]
  decide +kernel

end Report

end RegistrySchema
