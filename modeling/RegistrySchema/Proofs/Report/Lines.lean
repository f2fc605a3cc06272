import RegistrySchema.Proofs.Report.Entries

/-!
# The lines of a written report

A written text is cut into the lines that were written, provided that no line holds a line feed.
Lines that carry something are numbered from 1 and keep their numbers when the blank ones are
left out, so the sections of a report follow each other with one number between them left out.
-/

namespace RegistrySchema.Report

/-! ## Cutting -/

/-- What is cut at line feeds holds none, and neither does what is kept of it. -/
theorem not_mem_of_mem_written {source : List Char} {line : Line}
    (h : line ∈ Line.written source) : '\n' ∉ line.text := by
  have hpieces : ∀ {pieces : List (List Char)} {number start : Nat},
      line ∈ Line.numbered number start pieces →
        ∃ piece ∈ pieces, line.text = Text.dropEndWhile Line.isTerminator piece := by
    intro pieces
    induction pieces with
    | nil => intro _ _ h; cases h
    | cons piece pieces ih =>
      intro number start h
      rcases List.mem_cons.1 h with rfl | h
      · exact ⟨piece, List.mem_cons_self, rfl⟩
      · obtain ⟨found, hmem, htext⟩ := ih h
        exact ⟨found, List.mem_cons_of_mem _ hmem, htext⟩
  obtain ⟨piece, hpiece, htext⟩ := hpieces (List.mem_of_mem_filter h)
  rw [htext]
  exact fun hmem => Text.not_mem_of_mem_pieces hpiece
    ((Text.isPrefix_dropEndWhile _ _).subset hmem)

theorem linesText_cons (line : List Char) (lines : List (List Char)) :
    linesText (line :: lines) = line ++ '\n' :: linesText lines := by
  simp [linesText]

theorem linesText_append (lines others : List (List Char)) :
    linesText (lines ++ others) = linesText lines ++ linesText others :=
  List.flatMap_append

/-- Written lines without line feeds are the pieces of the text, with nothing behind the last. -/
theorem pieces_linesText {lines : List (List Char)} (h : ∀ line ∈ lines, '\n' ∉ line) :
    Text.pieces '\n' (linesText lines) = lines ++ [[]] := by
  induction lines with
  | nil => rfl
  | cons line lines ih =>
    rw [linesText_cons, Text.pieces_append_cons (h line (by simp)),
      ih fun l hl => h l (List.mem_cons_of_mem line hl), List.cons_append]

/-! ## Numbering -/

/-- Lines behind others are numbered on from them. -/
theorem numbered_append (number start : Nat) (pieces others : List (List Char)) :
    Line.numbered number start (pieces ++ others) =
      Line.numbered number start pieces ++
        Line.numbered (number + pieces.length) (start + Text.byteLength (linesText pieces))
          others := by
  induction pieces generalizing number start with
  | nil => simp [Line.numbered, linesText]
  | cons piece pieces ih =>
    have hfeed : '\n'.utf8Size = 1 := by decide
    rw [List.cons_append, Line.numbered, Line.numbered, ih, List.cons_append, linesText_cons,
      Text.byteLength_append, Text.byteLength_cons, hfeed, List.length_cons]
    congr 3 <;> omega

theorem map_number_numbered (number start : Nat) (pieces : List (List Char)) :
    (Line.numbered number start pieces).map Line.number = List.range' number pieces.length := by
  induction pieces generalizing number start with
  | nil => rfl
  | cons piece pieces ih =>
    rw [Line.numbered, List.map_cons, ih, List.length_cons, List.range'_succ]

theorem map_text_numbered (number start : Nat) (pieces : List (List Char)) :
    (Line.numbered number start pieces).map Line.text =
      pieces.map (Text.dropEndWhile Line.isTerminator) := by
  induction pieces generalizing number start with
  | nil => rfl
  | cons piece pieces ih => rw [Line.numbered, List.map_cons, ih, List.map_cons]

/-- The lines among numbered ones that carry something. -/
def carrying (number start : Nat) (pieces : List (List Char)) : List Line :=
  (Line.numbered number start pieces).filter fun line => !line.isBlank

theorem carrying_append (number start : Nat) (pieces others : List (List Char)) :
    carrying number start (pieces ++ others) =
      carrying number start pieces ++
        carrying (number + pieces.length) (start + Text.byteLength (linesText pieces))
          others := by
  rw [carrying, numbered_append, List.filter_append, carrying, carrying]

/-- An empty line only counts. -/
theorem carrying_nil_cons (number start : Nat) (pieces : List (List Char)) :
    carrying number start ([] :: pieces) = carrying (number + 1) (start + 1) pieces := by
  rw [carrying, Line.numbered,
    List.filter_cons_of_neg (by simp [Line.isBlank, Text.allBlank]), carrying]
  rfl

/-- Lines that all carry something are all kept. -/
theorem carrying_eq_numbered {pieces : List (List Char)}
    (h : ∀ piece ∈ pieces, Text.allBlank (Text.dropEndWhile Line.isTerminator piece) = false)
    (number start : Nat) : carrying number start pieces = Line.numbered number start pieces := by
  induction pieces generalizing number start with
  | nil => rfl
  | cons piece pieces ih =>
    have hpiece : Line.isBlank ⟨number, start, Text.dropEndWhile Line.isTerminator piece⟩ = false :=
      h piece (by simp)
    rw [carrying, Line.numbered, List.filter_cons_of_pos (by simp [hpiece]), ← carrying,
      ih fun p hp => h p (List.mem_cons_of_mem piece hp)]

/-! ## Written reports -/

/-- What begins with a tag is not blank. -/
theorem allBlank_tag_append (s : Section) (rest : List Char) :
    Text.allBlank (s.tag.toList ++ rest) = false := by
  have htag : Text.allBlank s.tag.toList = false := by
    cases s <;> decide
  rw [Text.allBlank, List.all_append, ← Text.allBlank, htag, Bool.false_and]

/-- No line of a record is blank: it begins with a tag. -/
theorem allBlank_line (record : Record) :
    Text.allBlank (Text.dropEndWhile Line.isTerminator record.line) = false := by
  rw [dropEndWhile_line, List.append_assoc, allBlank_tag_append]

/-- A list has a line feed only where an item has one. -/
theorem lineFeed_not_mem_listText {items : List String}
    (h : ∀ item ∈ items, '\n' ∉ item.toList) : '\n' ∉ listText items := by
  intro hmem
  rcases Text.mem_of_mem_joined hmem with hsep | ⟨item, hitem, hc⟩
  · exact absurd hsep (by decide)
  · obtain ⟨text, htext, rfl⟩ := List.mem_map.1 hitem
    exact h text htext hc

/-- A line has a line feed only where a text of its record has one. -/
theorem lineFeed_not_mem_line {record : Record}
    (h : ∀ text ∈ record.texts, '\n' ∉ text.toList) : '\n' ∉ record.line := by
  have hname : '\n' ∉ nameSeparator := by decide
  have hhead : ∀ s : Section, '\n' ∉ s.tag.toList ++ tagSeparator := by
    intro s
    cases s <;> decide
  rw [Record.line_eq, List.mem_append, not_or]
  refine ⟨hhead _, ?_⟩
  cases record with
  | block r =>
    rw [Record.texts, List.forall_mem_cons] at h
    simp only [List.mem_flatMap, List.mem_cons, List.not_mem_nil, or_false] at h
    rw [Record.body, List.mem_append, List.mem_append, List.mem_flatMap, not_or, not_or]
    refine ⟨⟨h.1, hname⟩, ?_⟩
    rintro ⟨pair, hpair, hmem⟩
    have hproperty := h.2 _ ⟨pair, hpair, Or.inl rfl⟩
    have htag := h.2 _ ⟨pair, hpair, Or.inr rfl⟩
    -- Besides its two texts, a written pair has a colon and a space.
    rw [pairText_eq, pairWord] at hmem
    simp only [List.mem_append, List.mem_cons, List.not_mem_nil, or_false, hproperty, htag,
      false_or] at hmem
    exact absurd hmem (by decide)
  | enum r =>
    rw [Record.texts, List.forall_mem_cons] at h
    rw [Record.body, List.mem_append, List.mem_append, not_or, not_or]
    exact ⟨⟨h.1, hname⟩, lineFeed_not_mem_listText h.2⟩
  | entity r =>
    obtain ⟨name, source⟩ := r
    rw [Record.texts, List.forall_mem_cons] at h
    cases source with
    | none => exact h.1
    | some source =>
      rw [Record.body, List.mem_append, List.mem_append, not_or, not_or]
      exact ⟨⟨h.1, hname⟩, h.2 _ (by simp)⟩
  | lineage r =>
    rw [Record.texts, List.forall_mem_cons] at h
    rw [Record.body, List.mem_append, List.mem_append, not_or, not_or]
    exact ⟨⟨h.1, hname⟩, lineFeed_not_mem_listText h.2⟩

end RegistrySchema.Report

namespace RegistrySchema.Schema

open Report

/-- The lines of a report, with an empty one between sections. -/
def lines (schema : Schema) : List (List Char) :=
  (schema.blocks.map Record.block).map Record.line
    ++ [] :: ((schema.enumRecords.map Record.enum).map Record.line
      ++ [] :: ((schema.entities.map Record.entity).map Record.line
        ++ [] :: (schema.classRecords.map Record.lineage).map Record.line))

theorem reportChars_eq (schema : Schema) : schema.reportChars = linesText schema.lines := by
  simp [reportChars, lines, linesText_append, linesText_cons, Function.comp_def, Record.line]

/-- What holds of an empty line and of the lines of the records holds of every line. -/
theorem forall_mem_lines {schema : Schema} {P : List Char → Prop} (hnil : P [])
    (h : ∀ record ∈ schema.records, P record.line) : ∀ line ∈ schema.lines, P line := by
  simp only [records, List.forall_mem_append, List.forall_mem_map] at h
  obtain ⟨⟨⟨hblocks, henums⟩, hentities⟩, hclasses⟩ := h
  simp only [lines, List.forall_mem_append, List.forall_mem_cons, List.forall_mem_map]
  exact ⟨hblocks, hnil, henums, hnil, hentities, hnil, hclasses⟩

/-- The numbers of the lines with records: the sections follow each other with a number between
them left out. -/
def lineNumbers (schema : Schema) : List Nat :=
  let enums := schema.blocks.length + 2
  let entities := enums + schema.enumRecords.length + 1
  let classes := entities + schema.entities.length + 1
  List.range' 1 schema.blocks.length ++ List.range' enums schema.enumRecords.length
    ++ List.range' entities schema.entities.length
    ++ List.range' classes schema.classRecords.length

/-- A change of lines that keeps the lines of a schema: empty ones stay empty, and the line of a
record stays one line, which carries something. -/
structure KeepsLines (schema : Schema) (edit : List Char → List Char) : Prop where
  /-- Nothing is added to an empty line. -/
  edit_nil : edit [] = []
  /-- No line is broken up. -/
  no_lineFeed : ∀ record ∈ schema.records, '\n' ∉ edit record.line
  /-- No line is lost. -/
  carries : ∀ record ∈ schema.records,
    Text.allBlank (Text.dropEndWhile Line.isTerminator (edit record.line)) = false

theorem keepsLines_id {schema : Schema} (h : ∀ record ∈ schema.records, '\n' ∉ record.line) :
    schema.KeepsLines id :=
  ⟨rfl, h, fun record _ => allBlank_line record⟩

/-- A report has one line for each record, and nothing else on the lines that carry something, also
if its lines were changed and kept. -/
theorem written_linesText_map {schema : Schema} {edit : List Char → List Char}
    (h : schema.KeepsLines edit) :
    (Line.written (linesText (schema.lines.map edit))).map Line.text =
        schema.records.map (fun record =>
          Text.dropEndWhile Line.isTerminator (edit record.line)) ∧
      (Line.written (linesText (schema.lines.map edit))).map Line.number = schema.lineNumbers := by
  obtain ⟨hempty, hfeed, hcarries⟩ := h
  simp only [records, List.forall_mem_append, List.forall_mem_map] at hcarries
  have hlines : ∀ line ∈ schema.lines.map edit, '\n' ∉ line := by
    rw [List.forall_mem_map]
    exact forall_mem_lines (by simp [hempty]) hfeed
  -- The lines of a family are all kept, whatever their numbers.
  have hcarry : ∀ {α : Type} (f : α → Record) (family : List α),
      (∀ a ∈ family, Text.allBlank
        (Text.dropEndWhile Line.isTerminator (edit (f a).line)) = false) →
      ∀ number start : Nat,
        carrying number start (((family.map f).map Record.line).map edit) =
          Line.numbered number start (((family.map f).map Record.line).map edit) := by
    intro α f family hfamily
    refine carrying_eq_numbered fun piece hpiece => ?_
    simp only [List.map_map, List.mem_map, Function.comp_apply] at hpiece
    obtain ⟨a, ha, rfl⟩ := hpiece
    exact hfamily a ha
  obtain ⟨⟨⟨hblocks, henums⟩, hentities⟩, hclasses⟩ := hcarries
  have hend : ∀ number start : Nat, carrying number start [[]] = [] := fun number start =>
    carrying_nil_cons number start []
  have hwritten : Line.written (linesText (schema.lines.map edit)) =
      carrying 1 0 (schema.lines.map edit ++ [[]]) := by
    rw [Line.written, Line.all, pieces_linesText hlines, carrying]
  -- Each section is numbered on from the one before it and the empty line between them.
  rw [hwritten]
  simp only [lines, List.map_append, List.map_cons, hempty, List.append_assoc, List.cons_append,
    carrying_append, carrying_nil_cons, hcarry _ _ hblocks, hcarry _ _ henums,
    hcarry _ _ hentities, hcarry _ _ hclasses, hend, List.append_nil, map_text_numbered,
    map_number_numbered, List.length_map, records, lineNumbers]
  constructor
  · simp only [List.map_map, Function.comp_def]
  · rw [Nat.add_comm 1 schema.blocks.length]

end RegistrySchema.Schema
