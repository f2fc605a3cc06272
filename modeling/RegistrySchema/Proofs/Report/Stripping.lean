import RegistrySchema.Proofs.Report.RoundTrip

/-!
# Spaces at the ends of lines

An editor may drop the spaces at the end of every line of a written report. A space behind the last
property of a block carries nothing, and neither does the one behind the dash of an empty payload:
the reader knows a name by the dash alone (`splitName_dash`), whatever the name ends in. So a
report that can be read back at all is still read as the same records, unless

* an entity is nothing but the space behind its tag or behind its dash, that is, it has an empty
  name or an empty class;
* the last tag of a block ends in a carriage return, which without the space behind it is taken
  for a part of the line's end.

The main results are `readLine_strip_iff` on a line and `parse_withoutTrailingSpaces_lists_iff` on
a report.
-/

namespace RegistrySchema

open Report

namespace Report

/-- A line without the spaces at its end. -/
def strip (line : List Char) : List Char := Text.dropEndWhile (fun c => c = ' ') line

/-- A text without the spaces at the ends of its lines. -/
def withoutTrailingSpaces (source : String) : String :=
  String.ofList (Text.joined ['\n'] ((Text.pieces '\n' source.toList).map strip))

/-- The record of a line that has a name and no more. -/
def Section.bareRecord (s : Section) (name : String) : Record :=
  match s with
  | .blocks => .block ⟨name, []⟩
  | .enums => .enum ⟨name, []⟩
  | .entities => .entity ⟨name, none⟩
  | .classes => .lineage ⟨⟨name⟩, []⟩

/-! ## Stripping -/

@[simp] theorem strip_nil : strip [] = [] := rfl

theorem strip_append {cs : List Char} (h : cs.getLast? ≠ some ' ') (ds : List Char) :
    strip (cs ++ ds) = cs ++ strip ds := by
  refine Text.dropEndWhile_append (fun c hc => decide_eq_false ?_) ds
  rintro rfl
  exact h hc

theorem strip_eq_self_of_endsBlank {cs : List Char} (h : Text.endsBlank cs = false) :
    strip cs = cs := by
  refine Text.dropEndWhile_eq_self_of_endsBlank (fun c hc => ?_) h
  rw [of_decide_eq_true hc]
  decide

theorem isPrefix_strip (cs : List Char) : strip cs <+: cs := Text.isPrefix_dropEndWhile _ cs

/-- What is dropped at the end of a payload does not belong to a list. -/
theorem listItems_strip (payload : List Char) : listItems (strip payload) = listItems payload := by
  have htrim : Text.trimEnd (strip payload) = Text.trimEnd payload := by
    refine Text.trimEnd_dropEndWhile (fun c hc => ?_) payload
    rw [of_decide_eq_true hc]
    decide
  rw [listItems, listItems, htrim]

/-- The space behind a dash goes with the payload if nothing is left of it. -/
theorem strip_nameSeparator (lead payload : List Char) :
    strip (lead ++ nameSeparator ++ payload) =
      if strip payload = [] then lead ++ " -".toList
      else lead ++ nameSeparator ++ strip payload := by
  have hsep : nameSeparator ++ payload = " -".toList ++ ' ' :: payload := rfl
  have hdash : (lead ++ " -".toList).getLast? ≠ some ' ' := by
    rw [List.getLast?_append_of_ne_nil _ (by decide)]
    decide
  have hspace : strip (' ' :: payload) =
      if strip payload = [] then [] else ' ' :: strip payload := by
    rw [strip, strip, Text.dropEndWhile]
    cases Text.dropEndWhile (fun c => decide (c = ' ')) payload <;> rfl
  rw [List.append_assoc, hsep, ← List.append_assoc, strip_append hdash, hspace]
  split
  · rw [List.append_nil]
  · rw [List.append_assoc, List.append_assoc]
    rfl

/-- Written lines are stripped one by one. -/
theorem joined_map_strip_pieces {lines : List (List Char)} (h : ∀ line ∈ lines, '\n' ∉ line) :
    Text.joined ['\n'] ((Text.pieces '\n' (linesText lines)).map strip) =
      linesText (lines.map strip) := by
  have hstrip : ∀ line ∈ lines.map strip, '\n' ∉ line := by
    rw [List.forall_mem_map]
    exact fun line hline hmem => h line hline ((isPrefix_strip line).subset hmem)
  rw [pieces_linesText h, List.map_append, List.map_singleton, strip_nil,
    ← pieces_linesText hstrip, Text.joined_pieces]

/-! ## Names -/

/-- A fitting name is read from the dash behind it, with or without a space. -/
theorem splitName_dash {name : List Char} (h : NameFits name) :
    splitName (name ++ " -".toList) = (name, []) := by
  have hend : Text.trimEnd (name ++ " -".toList) = name ++ " -".toList := by
    rw [Text.trimEnd_eq_self_iff, Text.endsBlank, List.getLast?_append_of_ne_nil _ (by decide)]
    decide
  have hdash : Text.trimEnd nameSeparator = " -".toList := by decide
  rw [splitName, Text.splitOnce_eq_none_iff.2 h]
  dsimp only
  rw [hend, hdash, Text.dropTail?_eq_some_iff.2 rfl]

/-- What is left of a payload on a line whose end is dropped. -/
def leftOver (payload : List Char) : List Char :=
  Text.dropEndWhile Line.isTerminator (strip payload)

/-- If nothing is left of the payload, the line ends with the dash. -/
theorem dropEndWhile_strip_of_nil (lead : List Char) {payload : List Char}
    (h : strip payload = []) :
    Text.dropEndWhile Line.isTerminator (strip (lead ++ nameSeparator ++ payload)) =
      lead ++ " -".toList := by
  have hdash : (lead ++ " -".toList).getLast? = some '-' := by
    rw [List.getLast?_append_of_ne_nil _ (by decide)]
    decide
  rw [strip_nameSeparator, if_pos h, Text.dropEndWhile_eq_self_iff]
  intro c hc
  rw [hdash, Option.some.injEq] at hc
  rw [← hc]
  decide

/-- Without the spaces at its end a line has the same name, and what is left of the payload. -/
theorem exists_body_strip (s : Section) {name : List Char} (hname : NameFits name)
    (payload : List Char) :
    ∃ body, Text.dropEndWhile Line.isTerminator
        (strip (s.tag.toList ++ tagSeparator ++ (name ++ nameSeparator ++ payload))) =
          s.tag.toList ++ tagSeparator ++ body ∧
      splitName body = (name, leftOver payload) := by
  rw [← List.append_assoc, ← List.append_assoc]
  by_cases hnil : strip payload = []
  · refine ⟨name ++ " -".toList, ?_, ?_⟩
    · rw [dropEndWhile_strip_of_nil _ hnil, List.append_assoc _ name]
    · rw [splitName_dash hname, leftOver, hnil, Text.dropEndWhile_nil]
  · refine ⟨name ++ nameSeparator ++ leftOver payload, ?_, splitName_append hname _⟩
    rw [strip_nameSeparator, if_neg hnil, dropEndWhile_isTerminator_append, leftOver]
    simp only [List.append_assoc]

/-- A body that is a name and no more has no payload in any section where payloads are optional. -/
theorem readBody_of_splitName {s : Section} (hs : s ≠ .entities) {body : List Char} {name : String}
    (h : splitName body = (name.toList, [])) : readBody s body = .ok (s.bareRecord name) := by
  cases s with
  | blocks =>
    rw [readBody, Section.bareRecord, ← readBody, readBody_blocks_eq_ok_iff, readBlock_eq_ok_iff, h,
      String.ofList_toList]
    exact ⟨rfl, rfl⟩
  | enums =>
    rw [readBody, readEnum, h, Section.bareRecord]
    dsimp only
    rw [String.ofList_toList]
    rfl
  | entities => exact absurd rfl hs
  | classes =>
    rw [readBody, readClass, h, Section.bareRecord]
    dsimp only
    rw [String.ofList_toList]
    rfl

theorem family_bareRecord (s : Section) (name : String) : (s.bareRecord name).family = s := by
  cases s <;> rfl

/-- An empty payload is read alike with and without the space behind the dash, wherever a line of
the section may stand. -/
theorem readLine_bare {s : Section} (hs : s ≠ .entities) {current : Section}
    (hcurrent : current.rank ≤ s.rank) {name : String} (h : NameFits name.toList) :
    readLine current (lineHead s name ++ " -".toList) = .ok (s.bareRecord name) ∧
      readLine current (lineHead s name ++ nameSeparator) = .ok (s.bareRecord name) := by
  have hfamily := family_bareRecord s name
  have hread : ∀ tail, splitName (name.toList ++ tail) = (name.toList, []) →
      readLine current (lineHead s name ++ tail) = .ok (s.bareRecord name) := by
    intro tail hsplit
    refine readLine_eq_ok_iff.2 ⟨hfamily.symm ▸ hcurrent, name.toList ++ tail, ?_, ?_⟩
    · rw [hfamily, lineHead, List.append_assoc]
    · rw [hfamily, readBody_of_splitName hs hsplit]
  have hspace := splitName_append h []
  rw [List.append_nil] at hspace
  exact ⟨hread _ (splitName_dash h), hread _ hspace⟩

/-! ## Pairs -/

/-- A carriage return at the end of a tag is lost. -/
theorem leftOver_concat_pair (pairs : List (String × TypeTag)) {pair : String × TypeTag}
    (h : PairFits pair) :
    leftOver ((pairs ++ [pair]).flatMap pairText) = pairs.flatMap pairText ++
      (pair.1.toList ++ propertySeparator ::
        Text.dropEndWhile Line.isTerminator pair.2.text.toList) := by
  have hword : (pairs.flatMap pairText ++ pairWord pair).getLast? ≠ some ' ' := by
    rw [List.getLast?_append_of_ne_nil _ (by simp [pairWord])]
    exact fun hlast => space_not_mem_pairWord h (List.mem_of_getLast? hlast)
  have hcolon : ∀ c,
      (pairs.flatMap pairText ++ (pair.1.toList ++ [propertySeparator])).getLast? = some c →
        Line.isTerminator c = false := by
    intro c hc
    rw [← List.append_assoc, List.getLast?_concat, Option.some.injEq] at hc
    rw [← hc]
    decide
  have hspace : strip [' '] = [] := by decide
  have hcut := Text.dropEndWhile_append hcolon pair.2.text.toList
  rw [List.flatMap_append, List.flatMap_singleton, pairText_eq, ← List.append_assoc, leftOver,
    strip_append hword, hspace, List.append_nil, pairWord]
  simpa only [List.append_assoc, List.singleton_append] using hcut

/-- The words of written pairs are all there iff the last tag does not end in a carriage return. -/
theorem words_leftOver_iff {pairs : List (String × TypeTag)} (h : ∀ pair ∈ pairs, PairFits pair)
    (hfeed : ∀ pair ∈ pairs, '\n' ∉ pair.2.text.toList) :
    words (leftOver (pairs.flatMap pairText)) = pairs.map pairWord ↔
      ∀ pair ∈ pairs.getLast?, pair.2.text.toList.getLast? ≠ some '\r' := by
  rcases List.eq_nil_or_concat pairs with rfl | ⟨front, last, rfl⟩
  · exact iff_of_true rfl (by simp)
  · rw [List.concat_eq_append] at h hfeed ⊢
    have hlast : PairFits last := h last (by simp)
    have hspace : ∀ pair ∈ front, ' ' ∉ pairWord pair := fun pair hpair =>
      space_not_mem_pairWord (h pair (List.mem_append_left _ hpair))
    -- What is left of the last pair is one word still.
    let kept := Text.dropEndWhile Line.isTerminator last.2.text.toList
    have hkept : ' ' ∉ last.1.toList ++ propertySeparator :: kept := by
      rw [List.mem_append, List.mem_cons, not_or, not_or]
      exact ⟨hlast.property_space, by decide,
        fun hmem => hlast.tag_space ((Text.isPrefix_dropEndWhile _ _).subset hmem)⟩
    have hword : words (last.1.toList ++ propertySeparator :: kept) =
        [last.1.toList ++ propertySeparator :: kept] := by
      rw [words, Text.pieces_of_not_mem hkept]
      exact List.filter_cons_of_pos (by simp)
    have hreturn : kept = last.2.text.toList ↔ last.2.text.toList.getLast? ≠ some '\r' := by
      rw [Text.dropEndWhile_eq_self_iff]
      constructor
      · exact fun hall hc => absurd (hall _ hc) (by decide)
      · intro hne c hc
        rw [Line.isTerminator, Bool.or_eq_false_iff, decide_eq_false_iff_not,
          decide_eq_false_iff_not]
        refine ⟨?_, fun hcr => hne (hcr ▸ hc)⟩
        rintro rfl
        exact hfeed last (by simp) (List.mem_of_getLast? hc)
    rw [leftOver_concat_pair front hlast, words_flatMap_pairText_append hspace, hword,
      List.map_append, List.map_singleton, pairWord, List.append_cancel_left_eq,
      List.getLast?_concat]
    simp [hreturn]

/-! ## Records -/

end Report

namespace Record

/-- Whether a record is still read from its line when the spaces at the end of the line are gone,
provided that it is read from its line at all. -/
def EndsFirm : Record → Prop
  | block r => ∀ pair ∈ r.properties.getLast?, pair.2.text.toList.getLast? ≠ some '\r'
  | enum _ => True
  | entity ⟨name, none⟩ => name ≠ ""
  | entity ⟨_, some source⟩ => source.text ≠ ""
  | lineage _ => True

instance : DecidablePred EndsFirm
  | block r => inferInstanceAs (Decidable (∀ pair ∈ r.properties.getLast?, _))
  | enum _ | lineage _ => inferInstanceAs (Decidable True)
  | entity ⟨_, none⟩ | entity ⟨_, some _⟩ => inferInstanceAs (Decidable (_ ≠ _))

end Record

namespace Report

/-- A line that ends in something else than white space is left as it is. -/
theorem strip_line_of_endsBlank {front back : List Char} (hne : back ≠ [])
    (h : Text.endsBlank back = false) : strip (front ++ back) = front ++ back := by
  refine strip_eq_self_of_endsBlank ?_
  rwa [Text.endsBlank, List.getLast?_append_of_ne_nil _ hne]

theorem readLine_strip_block_iff {record : BlockRecord} (hfits : (Record.block record).Fits)
    (hfeed : ∀ text ∈ (Record.block record).texts, '\n' ∉ text.toList) :
    readLine .blocks (Text.dropEndWhile Line.isTerminator (strip (Record.block record).line)) =
        .ok (.block record) ↔
      (Record.block record).EndsFirm := by
  obtain ⟨hname, hpairs⟩ := hfits
  have htags : ∀ pair ∈ record.properties, '\n' ∉ pair.2.text.toList := by
    intro pair hpair
    refine hfeed _ (List.mem_cons_of_mem _ (List.mem_flatMap.2 ⟨pair, hpair, ?_⟩))
    exact List.mem_cons_of_mem _ List.mem_cons_self
  obtain ⟨body, hline, hsplit⟩ := exists_body_strip (Record.block record).family hname
    (record.properties.flatMap pairText)
  rw [Record.line_eq, Record.body, hline, readLine_append_iff, Record.family,
    readBody_blocks_eq_ok_iff, readBlock_eq_ok_iff, hsplit, mapM_readPair_eq_ok_iff,
    words_leftOver_iff hpairs htags, String.ofList_toList]
  exact ⟨fun h => h.2.1, fun h => ⟨rfl, h, hpairs⟩⟩

theorem listItems_leftOver (payload : List Char) :
    listItems (leftOver payload) = listItems payload := by
  rw [leftOver, listItems_dropEndWhile, listItems_strip]

theorem readLine_strip_enum {record : EnumRecord} (hfits : (Record.enum record).Fits) :
    readLine .blocks (Text.dropEndWhile Line.isTerminator (strip (Record.enum record).line)) =
      .ok (.enum record) := by
  obtain ⟨hname, hitems⟩ := hfits
  obtain ⟨body, hline, hsplit⟩ := exists_body_strip (Record.enum record).family hname
    (listText record.values)
  have hread : readEnum body = record := by
    rw [readEnum, hsplit]
    dsimp only
    rw [listItems_leftOver, listItems_listText_iff.2 hitems, String.ofList_toList]
  rw [Record.line_eq, Record.body, hline, readLine_append_iff, Record.family, readBody, hread]

theorem readLine_strip_class {record : ClassRecord} (hfits : (Record.lineage record).Fits) :
    readLine .blocks (Text.dropEndWhile Line.isTerminator (strip (Record.lineage record).line)) =
      .ok (.lineage record) := by
  obtain ⟨hname, hitems⟩ := hfits
  obtain ⟨body, hline, hsplit⟩ := exists_body_strip (Record.lineage record).family hname
    (listText (record.ancestors.map SourcePath.text))
  have hread : readClass body = record := by
    have hpaths : (listItems (listText (record.ancestors.map SourcePath.text))).map
        (fun item => SourcePath.mk (String.ofList item)) = record.ancestors := by
      have hmap := congrArg (List.map SourcePath.mk) (listItems_listText_iff.2 hitems)
      rw [List.map_map, List.map_map] at hmap
      exact hmap.trans (List.map_id _)
    rw [readClass, hsplit]
    dsimp only
    rw [listItems_leftOver, hpaths, String.ofList_toList]
  rw [Record.line_eq, Record.body, hline, readLine_append_iff, Record.family, readBody, hread]

/-- A record that does not end in white space is read from its line as it is. -/
theorem readLine_strip_of_endsBlank {record : Record} (hfits : record.Fits) {front back : List Char}
    (hline : record.line = front ++ back) (hne : back ≠ []) (hend : Text.endsBlank back = false) :
    readLine .blocks (Text.dropEndWhile Line.isTerminator (strip record.line)) = .ok record := by
  rw [hline, strip_line_of_endsBlank hne hend, ← hline]
  exact readLine_line_iff.2 hfits

theorem readLine_strip_entity_iff {record : EntityRecord} (hfits : (Record.entity record).Fits) :
    readLine .blocks (Text.dropEndWhile Line.isTerminator (strip (Record.entity record).line)) =
        .ok (.entity record) ↔
      (Record.entity record).EndsFirm := by
  obtain ⟨name, source⟩ := record
  cases source with
  | none =>
    rw [Record.EndsFirm]
    constructor
    · rintro h rfl
      -- Without its space the tag separator is none.
      have hline : readLine .blocks (Text.dropEndWhile Line.isTerminator
          (strip (Record.entity ⟨"", none⟩).line)) = .error .noSeparator := by decide
      rw [hline] at h
      cases h
    · intro hne
      exact readLine_strip_of_endsBlank hfits (Record.line_eq _)
        (fun hnil => hne (String.toList_inj.1 hnil)) hfits.2
  | some source =>
    rw [Record.EndsFirm]
    constructor
    · intro h hempty
      -- Without its space the dash belongs to the name of an entity without a class.
      rw [Record.line_eq, Record.body, hempty, ← List.append_assoc, ← List.append_assoc,
        dropEndWhile_strip_of_nil _ rfl, List.append_assoc _ name.toList, readLine_append_iff,
        Record.family, readBody, readEntity_of_no_separator hfits.1] at h
      simp at h
    · intro hne
      have hline := Record.line_eq (.entity ⟨name, some source⟩)
      rw [Record.body, ← List.append_assoc] at hline
      exact readLine_strip_of_endsBlank hfits hline
        (fun hnil => hne (String.toList_inj.1 hnil)) hfits.2

/-- A record that is read from its line is still read from it without the spaces at the end of the
line iff it ends firm. -/
theorem readLine_strip_iff {record : Record} (hfits : record.Fits)
    (hfeed : ∀ text ∈ record.texts, '\n' ∉ text.toList) :
    readLine .blocks (Text.dropEndWhile Line.isTerminator (strip record.line)) = .ok record ↔
      record.EndsFirm := by
  cases record with
  | block r => exact readLine_strip_block_iff hfits hfeed
  | enum r => exact iff_of_true (readLine_strip_enum hfits) trivial
  | entity r => exact readLine_strip_entity_iff hfits
  | lineage r => exact iff_of_true (readLine_strip_class hfits) trivial

end Report

/-! ## Reports -/

namespace Schema

/-- What the records of a schema have to be besides for a report to be read back as these records
when the spaces at the ends of its lines are gone. -/
structure EndsFirm (schema : Schema) : Prop where
  /-- An entity without a class has a name. -/
  entity_alone : ∀ r ∈ schema.entities, r.source = none → r.name ≠ ""
  /-- The class of an entity is not empty. -/
  entity_source : ∀ r ∈ schema.entities, ∀ source, r.source = some source → source.text ≠ ""
  /-- The last tag of a block does not end in a carriage return. -/
  last_tag : ∀ r ∈ schema.blocks, ∀ pair ∈ r.properties.getLast?,
    pair.2.text.toList.getLast? ≠ some '\r'

theorem endsFirm_iff {schema : Schema} :
    schema.EndsFirm ↔ ∀ record ∈ schema.records, record.EndsFirm := by
  have hentity : ∀ r : EntityRecord, (Record.entity r).EndsFirm ↔
      (r.source = none → r.name ≠ "") ∧ ∀ source, r.source = some source → source.text ≠ "" := by
    rintro ⟨name, source⟩
    cases source <;> simp [Record.EndsFirm]
  simp only [records, List.forall_mem_append, List.forall_mem_map, hentity]
  constructor
  · intro h
    exact ⟨⟨⟨h.last_tag, fun _ _ => trivial⟩, fun r hr => ⟨h.entity_alone r hr,
      h.entity_source r hr⟩⟩, fun _ _ => trivial⟩
  · rintro ⟨⟨⟨hblocks, -⟩, hentities⟩, -⟩
    exact ⟨fun r hr => (hentities r hr).1, fun r hr => (hentities r hr).2, hblocks⟩

instance (schema : Schema) : Decidable schema.EndsFirm := decidable_of_iff _ endsFirm_iff.symm

theorem keepsLines_strip {schema : Schema} (h : ∀ record ∈ schema.records, '\n' ∉ record.line) :
    schema.KeepsLines strip where
  edit_nil := rfl
  no_lineFeed record hmem hfeed := h record hmem ((isPrefix_strip _).subset hfeed)
  carries record _ := by
    -- Every tag ends in the same letter, which is kept.
    have hlast : record.family.tag.toList.getLast? = some 'O' := by
      cases record.family <;> decide
    have hspace : record.family.tag.toList.getLast? ≠ some ' ' := by
      rw [hlast]
      decide
    have hterminator : ∀ c, record.family.tag.toList.getLast? = some c →
        Line.isTerminator c = false := by
      intro c hc
      rw [hlast, Option.some.injEq] at hc
      rw [← hc]
      decide
    rw [Record.line_eq, List.append_assoc, strip_append hspace,
      Text.dropEndWhile_append hterminator, allBlank_tag_append]

/-- The stripped text of a report is that of its stripped lines. -/
theorem withoutTrailingSpaces_reportText {schema : Schema}
    (h : ∀ record ∈ schema.records, '\n' ∉ record.line) :
    withoutTrailingSpaces schema.reportText = schema.editedText strip := by
  have hlines : ∀ line ∈ schema.lines, '\n' ∉ line := forall_mem_lines List.not_mem_nil h
  rw [withoutTrailingSpaces, reportText, String.toList_ofList, reportChars_eq,
    joined_map_strip_pieces hlines, editedText]

/-- If its records end firm, a schema that fits is read back from its report without the spaces at
the ends of the lines, and the records keep the numbers of their lines. -/
theorem exists_parse_withoutTrailingSpaces {schema : Schema} (h : schema.Fits)
    (hfirm : schema.EndsFirm) :
    ∃ report, Report.parse (withoutTrailingSpaces schema.reportText) = .ok report ∧
      report.Lists schema ∧ report.entries.map (·.line) = schema.lineNumbers := by
  obtain ⟨hfeed, hfits⟩ := fits_iff.1 h
  have hlines := fun record hmem => lineFeed_not_mem_line (hfeed record hmem)
  obtain ⟨report, hparse, hrecords, hnumbers⟩ :=
    exists_parse_editedText (keepsLines_strip hlines) id (fun _ _ => rfl) fun record hmem =>
      (readLine_strip_iff (hfits record hmem) (hfeed record hmem)).2
        (endsFirm_iff.1 hfirm record hmem)
  rw [List.map_id] at hrecords
  rw [withoutTrailingSpaces_reportText hlines]
  exact ⟨report, hparse, lists_iff.2 hrecords, hnumbers⟩

/-- If a schema that fits is read back from its report without the spaces at the ends of the lines,
its records end firm. -/
theorem endsFirm_of_parse_withoutTrailingSpaces {schema : Schema} (h : schema.Fits)
    {report : Report} (hparse : Report.parse (withoutTrailingSpaces schema.reportText) = .ok report)
    (hlists : report.Lists schema) : schema.EndsFirm := by
  obtain ⟨hfeed, hfits⟩ := fits_iff.1 h
  have hlines := fun record hmem => lineFeed_not_mem_line (hfeed record hmem)
  have hread := forall₂_entries_of_parse hparse
  rw [withoutTrailingSpaces_reportText hlines, editedText, String.toList_ofList] at hread
  refine endsFirm_iff.2 fun record hmem =>
    (readLine_strip_iff (hfits record hmem) (hfeed record hmem)).1 ?_
  exact readLine_of_forall₂ (keepsLines_strip hlines) hread (lists_iff.1 hlists) record hmem

/-- A report that is read back is still read back as the same records, with the same line numbers,
when the spaces at the ends of its lines are gone, iff its records end firm; an empty payload is
read alike with and without the space behind the dash. -/
theorem parse_withoutTrailingSpaces_lists_iff {schema : Schema} (h : schema.Fits) :
    ((∃ report, Report.parse (withoutTrailingSpaces schema.reportText) = .ok report ∧
        report.Lists schema) ↔ schema.EndsFirm) ∧
      (schema.EndsFirm → ∃ report stripped, Report.parse schema.reportText = .ok report ∧
        report.Lists schema ∧
        Report.parse (withoutTrailingSpaces schema.reportText) = .ok stripped ∧
        stripped.Lists schema ∧
        stripped.entries.map (·.line) = report.entries.map (·.line)) ∧
      ∀ s current : Section, s ≠ .entities → current.rank ≤ s.rank →
        ∀ name : String, NameFits name.toList →
          readLine current (lineHead s name ++ " -".toList) = .ok (s.bareRecord name) ∧
            readLine current (lineHead s name ++ nameSeparator) = .ok (s.bareRecord name) := by
  refine ⟨⟨?_, fun hfirm => ?_⟩, fun hfirm => ?_,
    fun s current hs hcurrent name hname => readLine_bare hs hcurrent hname⟩
  · rintro ⟨report, hparse, hlists⟩
    exact endsFirm_of_parse_withoutTrailingSpaces h hparse hlists
  · obtain ⟨report, hparse, hlists, -⟩ := exists_parse_withoutTrailingSpaces h hfirm
    exact ⟨report, hparse, hlists⟩
  · obtain ⟨report, hparse, hlists, hnumbers⟩ := exists_parse_of_fits h
    obtain ⟨stripped, hstripped, hsame, hsameNumbers⟩ := exists_parse_withoutTrailingSpaces h hfirm
    exact ⟨report, stripped, hparse, hlists, hstripped, hsame, hsameNumbers.trans hnumbers.symm⟩

/-- Names with dashes and spaces at their ends, and lines that end in a dash and a space. -/
def ragged : Schema where
  blocks := [⟨"a -b- ", []⟩, ⟨"", [("", .named ""), ("-", .unclassified)]⟩]
  enums := ⟨[("e --", [" a b", "c"]), (" ", [])], by decide⟩
  entities := [⟨"- -", none⟩, ⟨" p ", some ⟨" - r"⟩⟩]
  classes := ⟨[(⟨""⟩, []), (⟨"k-  "⟩, [])], by decide⟩

theorem parse_withoutTrailingSpaces_lists_ragged :
    ragged.Fits ∧ ragged.EndsFirm ∧
      (∃ report stripped, Report.parse ragged.reportText = .ok report ∧ report.Lists ragged ∧
        Report.parse (withoutTrailingSpaces ragged.reportText) = .ok stripped ∧
        stripped.Lists ragged ∧
        stripped.entries.map (·.line) = report.entries.map (·.line)) ∧
      readLine .entities (lineHead .classes "k-  " ++ " -".toList) =
        .ok (.lineage ⟨⟨"k-  "⟩, []⟩) := by
  have hfits : ragged.Fits := by decide
  have hfirm : ragged.EndsFirm := by decide
  obtain ⟨-, hstripped, hbare⟩ := parse_withoutTrailingSpaces_lists_iff hfits
  have hclass := hbare .classes .entities (by decide) (by decide) "k-  " (by decide)
  exact ⟨hfits, hfirm, hstripped hfirm, hclass.1⟩

/-- A block whose last tag ends in a carriage return. -/
def returned : Schema where
  blocks := [⟨"lamp", [("lit", .bool), ("power", .named "Power\r")]⟩]
  enums := ⟨[], by decide⟩
  entities := []
  classes := ⟨[], by decide⟩

/-- It does not suffice that every entity has something behind its tag and behind its dash. -/
theorem not_parse_withoutTrailingSpaces_lists :
    ¬ ∀ schema : Schema, schema.Fits →
      (∀ r ∈ schema.entities, r.source = none → r.name ≠ "") →
      (∀ r ∈ schema.entities, ∀ source, r.source = some source → source.text ≠ "") →
      ∃ report stripped, Report.parse schema.reportText = .ok report ∧ report.Lists schema ∧
        Report.parse (withoutTrailingSpaces schema.reportText) = .ok stripped ∧
        stripped.Lists schema ∧
        stripped.entries.map (·.line) = report.entries.map (·.line) := by
  intro h
  have hfits : returned.Fits := by decide
  obtain ⟨-, stripped, -, -, hparse, hlists, -⟩ :=
    h returned hfits (fun _ hr => absurd hr List.not_mem_nil) fun _ hr => absurd hr List.not_mem_nil
  exact absurd (endsFirm_of_parse_withoutTrailingSpaces hfits hparse hlists) (by decide)

end Schema

end RegistrySchema
