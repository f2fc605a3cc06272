import RegistrySchema.Proofs.Report.Fields

/-!
# Records on lines

When a record is read from the line that was written for it. A line is the tag of a section, the
tag separator and a body; `Record.Fits` says which records are their own reading, once line
terminators at the end of the line are gone.

* `readLine_eq_ok_iff`: what a line has to be for a record to be read from it.
* `readLine_line_iff`: a record is read back from its line iff it fits.
* `infix_of_readLine`: every text of a record that is read stands on the line.
-/

namespace RegistrySchema

open Report

namespace Record

/-- The line that is written for a record. -/
def line : Record → List Char
  | block r => blockLine r
  | enum r => enumLine r
  | entity r => entityLine r
  | lineage r => classLine r

/-- What stands on that line behind the tag separator. -/
def body : Record → List Char
  | block r => r.name.toList ++ nameSeparator ++ r.properties.flatMap pairText
  | enum r => r.name.toList ++ nameSeparator ++ listText r.values
  | entity ⟨name, none⟩ => name.toList
  | entity ⟨name, some source⟩ => name.toList ++ nameSeparator ++ source.text.toList
  | lineage r =>
    r.source.text.toList ++ nameSeparator ++ listText (r.ancestors.map SourcePath.text)

/-- All texts that a record holds. -/
def texts : Record → List String
  | block r => r.name :: r.properties.flatMap fun pair => [pair.1, pair.2.text]
  | enum r => r.name :: r.values
  | entity r => r.name :: r.source.toList.map SourcePath.text
  | lineage r => r.source.text :: r.ancestors.map SourcePath.text

/-- Whether a record is its own reading, as far as its fields are concerned. -/
def Fits : Record → Prop
  | block r => NameFits r.name.toList ∧ ∀ pair ∈ r.properties, PairFits pair
  | enum r => NameFits r.name.toList ∧ ItemsFit r.values
  | entity ⟨name, none⟩ =>
    ¬ nameSeparator <:+: name.toList ∧ Text.endsBlank name.toList = false
  | entity ⟨name, some source⟩ =>
    NameFits name.toList ∧ Text.endsBlank source.text.toList = false
  | lineage r => NameFits r.source.text.toList ∧ ItemsFit (r.ancestors.map SourcePath.text)

instance : DecidablePred Fits
  | block _ | enum _ | entity ⟨_, none⟩ | entity ⟨_, some _⟩ | lineage _ =>
    inferInstanceAs (Decidable (_ ∧ _))

theorem line_eq (record : Record) :
    record.line = record.family.tag.toList ++ tagSeparator ++ record.body := by
  cases record with
  | block r => simp [line, body, family, blockLine, lineHead]
  | enum r => simp [line, body, family, enumLine, lineHead]
  | entity r =>
    obtain ⟨name, source⟩ := r
    cases source <;> simp [line, body, family, entityLine, lineHead]
  | lineage r => simp [line, body, family, classLine, lineHead]

end Record

namespace Report

/-- Dropping terminators does not reach behind a space. -/
theorem dropEndWhile_isTerminator_of_space {cs : List Char} (h : cs.getLast? = some ' ')
    (ds : List Char) : Text.dropEndWhile Line.isTerminator (cs ++ ds) =
      cs ++ Text.dropEndWhile Line.isTerminator ds := by
  refine Text.dropEndWhile_append (fun c hc => ?_) ds
  rw [h, Option.some.injEq] at hc
  rw [← hc]
  decide

/-! ## Tags -/

/-- No section's tag takes part in the tag separator behind it. -/
theorem splitOnce_tag (s : Section) (body : List Char) :
    Text.splitOnce tagSeparator (s.tag.toList ++ tagSeparator ++ body) =
      some (s.tag.toList, body) := by
  rw [Text.splitOnce_eq_some_iff (by decide)]
  refine ⟨rfl, ?_⟩
  cases s <;> decide

/-- A line has a section iff it begins with the tag of the section and the tag separator. -/
theorem readTag_eq_ok_iff {text : List Char} {s : Section} {body : List Char} :
    readTag text = .ok (s, body) ↔ text = s.tag.toList ++ tagSeparator ++ body := by
  constructor
  · intro h
    unfold readTag at h
    split at h
    · cases h
    · next tag rest hsplit =>
      split at h
      · cases h
      · next found hfound =>
        rw [Except.ok.injEq, Prod.mk.injEq] at h
        obtain ⟨rfl, rfl⟩ := h
        rw [Text.eq_of_splitOnce hsplit, Section.ofTag?_eq_some_iff.1 hfound,
          String.toList_ofList]
  · rintro rfl
    rw [readTag, splitOnce_tag]
    dsimp only
    rw [String.ofList_toList, Section.ofTag?_eq_some_iff.2 rfl]

/-- A body is read as a record of its section. -/
theorem family_of_readBody {s : Section} {body : List Char} {record : Record}
    (h : readBody s body = .ok record) : record.family = s := by
  cases s with
  | blocks =>
    cases hblock : readBlock body with
    | error fault =>
      rw [readBody, hblock] at h
      cases h
    | ok r =>
      rw [readBody, hblock] at h
      cases h
      rfl
  | enums => cases h; rfl
  | entities => cases h; rfl
  | classes => cases h; rfl

theorem readBody_blocks_eq_ok_iff {body : List Char} {record : BlockRecord} :
    readBody .blocks body = .ok (.block record) ↔ readBlock body = .ok record := by
  rw [readBody]
  cases readBlock body <;> simp [Except.map]

/-- A line is read as a record iff it holds the tag of the record's family, no later section has
been reached, and the body is read as the record. -/
theorem readLine_eq_ok_iff {current : Section} {text : List Char} {record : Record} :
    readLine current text = .ok record ↔
      current.rank ≤ record.family.rank ∧
        ∃ body, text = record.family.tag.toList ++ tagSeparator ++ body ∧
          readBody record.family body = .ok record := by
  unfold readLine
  constructor
  · intro h
    cases htag : readTag text with
    | error fault =>
      rw [htag] at h
      cases h
    | ok parts =>
      obtain ⟨found, body⟩ := parts
      simp only [htag, bind, Except.bind] at h
      split at h
      · cases h
      · next hrank =>
        -- The section is that of the record which the body yields.
        have hfamily := family_of_readBody h
        rw [readTag_eq_ok_iff, ← hfamily] at htag
        rw [← hfamily] at h hrank
        exact ⟨Nat.le_of_not_lt hrank, body, htag, h⟩
  · rintro ⟨hrank, body, htext, hbody⟩
    simp only [readTag_eq_ok_iff.2 htext, bind, Except.bind]
    rw [if_neg (Nat.not_lt.2 hrank), hbody]

/-- A line is refused for its tag, for its section or for its body, in this order. -/
theorem readLine_eq_error_iff {current : Section} {text : List Char} {fault : LineFault} :
    readLine current text = .error fault ↔ readTag text = .error fault ∨
      ∃ found body, readTag text = .ok (found, body) ∧
        (found.rank < current.rank ∧ fault = .outOfOrder found current ∨
          current.rank ≤ found.rank ∧ readBody found body = .error fault) := by
  unfold readLine
  cases readTag text with
  | error found => simp [bind, Except.bind]
  | ok parts =>
    obtain ⟨found, body⟩ := parts
    simp only [bind, Except.bind, reduceCtorEq, false_or, Except.ok.injEq, Prod.mk.injEq]
    by_cases hrank : found.rank < current.rank
    · have hnot : ¬ current.rank ≤ found.rank := Nat.not_le.2 hrank
      simp [hrank, hnot, eq_comm]
    · have hle : current.rank ≤ found.rank := Nat.not_lt.1 hrank
      simp [hrank, hle]

/-! ## Bodies -/

/-- The record of a block has the name and the pairs that are read from its body. -/
theorem readBlock_eq_ok_iff {body : List Char} {record : BlockRecord} :
    readBlock body = .ok record ↔
      record.name = String.ofList (splitName body).1 ∧
        (words (splitName body).2).mapM readPair = .ok record.properties := by
  obtain ⟨name, properties⟩ := record
  unfold readBlock
  cases hpairs : (words (splitName body).2).mapM readPair with
  | error fault => simp [hpairs, bind, Except.bind]
  | ok pairs =>
    simp only [hpairs, bind, Except.bind, pure, Except.pure, Except.ok.injEq,
      BlockRecord.mk.injEq]
    exact and_congr_left' eq_comm

theorem readBlock_eq_error_iff {body : List Char} {fault : LineFault} :
    readBlock body = .error fault ↔ (words (splitName body).2).mapM readPair = .error fault := by
  unfold readBlock
  cases hpairs : (words (splitName body).2).mapM readPair <;>
    simp [hpairs, bind, Except.bind, pure, Except.pure]

/-- The separator behind a name protects it from what is dropped at the end of a line. -/
theorem dropEndWhile_isTerminator_append (name payload : List Char) :
    Text.dropEndWhile Line.isTerminator (name ++ nameSeparator ++ payload) =
      name ++ nameSeparator ++ Text.dropEndWhile Line.isTerminator payload := by
  refine dropEndWhile_isTerminator_of_space ?_ payload
  rw [List.getLast?_append_of_ne_nil _ nameSeparator_ne_nil]
  decide

/-- Written pairs end in a space, if there are any. -/
theorem dropEndWhile_flatMap_pairText (pairs : List (String × TypeTag)) :
    Text.dropEndWhile Line.isTerminator (pairs.flatMap pairText) = pairs.flatMap pairText := by
  induction pairs using List.reverseRecOn with
  | nil => rfl
  | append_singleton pairs pair _ =>
    have hspace : ((pairs ++ [pair]).flatMap pairText).getLast? = some ' ' := by
      rw [List.flatMap_append, List.flatMap_singleton, pairText_eq, ← List.append_assoc,
        List.getLast?_concat]
    have hkeep := dropEndWhile_isTerminator_of_space hspace []
    rwa [Text.dropEndWhile_nil, List.append_nil] at hkeep

/-- A name that is read from a body fits. -/
theorem nameFits_of_eq {name : String} {body : List Char}
    (h : String.ofList (splitName body).1 = name) : NameFits name.toList := by
  rw [← h, String.toList_ofList]
  exact nameFits_splitName body

theorem readBlock_body_iff {record : BlockRecord} :
    readBlock (Text.dropEndWhile Line.isTerminator (Record.block record).body) = .ok record ↔
      (Record.block record).Fits := by
  rw [readBlock_eq_ok_iff, Record.body, Record.Fits, dropEndWhile_isTerminator_append,
    dropEndWhile_flatMap_pairText]
  constructor
  · rintro ⟨hname, hpairs⟩
    have hfits := nameFits_of_eq hname.symm
    rw [splitName_append hfits] at hpairs
    exact ⟨hfits, mapM_readPair_iff.1 hpairs⟩
  · rintro ⟨hfits, hpairs⟩
    rw [splitName_append hfits, String.ofList_toList]
    exact ⟨rfl, mapM_readPair_iff.2 hpairs⟩

/-- A name and a list behind it are read back iff both fit. -/
theorem splitName_listText_iff {name : String} {items : List String} {parts : List Char × List Char}
    (hparts : splitName (Text.dropEndWhile Line.isTerminator
      (name.toList ++ nameSeparator ++ listText items)) = parts) :
    String.ofList parts.1 = name ∧ (listItems parts.2).map String.ofList = items ↔
      NameFits name.toList ∧ ItemsFit items := by
  rw [dropEndWhile_isTerminator_append] at hparts
  constructor
  · rintro ⟨hname, hitems⟩
    have hfits : NameFits name.toList := nameFits_of_eq (hparts ▸ hname)
    rw [splitName_append hfits] at hparts
    rw [← hparts, listItems_dropEndWhile] at hitems
    exact ⟨hfits, listItems_listText_iff.1 hitems⟩
  · rintro ⟨hfits, hitems⟩
    rw [splitName_append hfits] at hparts
    rw [← hparts, listItems_dropEndWhile, String.ofList_toList]
    exact ⟨rfl, listItems_listText_iff.2 hitems⟩

theorem readEnum_body_iff {record : EnumRecord} :
    readEnum (Text.dropEndWhile Line.isTerminator (Record.enum record).body) = record ↔
      (Record.enum record).Fits := by
  obtain ⟨name, values⟩ := record
  rw [Record.Fits, ← splitName_listText_iff rfl, readEnum, EnumRecord.mk.injEq, Record.body]

theorem readClass_body_iff {record : ClassRecord} :
    readClass (Text.dropEndWhile Line.isTerminator (Record.lineage record).body) = record ↔
      (Record.lineage record).Fits := by
  obtain ⟨⟨source⟩, ancestors⟩ := record
  -- Items are paths, and paths are told apart by their texts.
  have hpaths : ∀ items : List (List Char),
      items.map (fun item => SourcePath.mk (String.ofList item)) = ancestors ↔
        items.map String.ofList = ancestors.map SourcePath.text := by
    intro items
    have hinj : Function.Injective SourcePath.text := fun a b h => SourcePath.mk.injEq .. ▸ h
    rw [← List.map_inj_right hinj, List.map_map]
    rfl
  rw [Record.Fits, ← splitName_listText_iff rfl, readClass, ClassRecord.mk.injEq,
    SourcePath.mk.injEq, hpaths, Record.body]

/-- An entity with a fitting name has as its class what stands behind the separator. -/
theorem readEntity_append {name : List Char} (h : NameFits name) (payload : List Char) :
    readEntity (name ++ nameSeparator ++ payload) =
      ⟨String.ofList name, some ⟨String.ofList (Text.trimEnd payload)⟩⟩ := by
  rw [readEntity, splitOnce_nameSeparator_eq_some_iff.2 ⟨rfl, h⟩]

/-- A body without a separator is the name of an entity without a class. -/
theorem readEntity_of_no_separator {body : List Char} (h : ¬ nameSeparator <:+: body) :
    readEntity body = ⟨String.ofList (Text.trimEnd body), none⟩ := by
  rw [readEntity, Text.splitOnce_eq_none_iff.2 h]

/-- What is read of an entity: either a fitting name and the class behind the separator, or the
name alone if there is no separator. -/
theorem readEntity_cases (body : List Char) :
    (∃ name payload, body = name ++ nameSeparator ++ payload ∧ NameFits name) ∨
      ¬ nameSeparator <:+: body := by
  cases h : Text.splitOnce nameSeparator body with
  | none => exact Or.inr (Text.splitOnce_eq_none_iff.1 h)
  | some parts => exact Or.inl ⟨parts.1, parts.2, splitOnce_nameSeparator_eq_some_iff.1 h⟩

theorem readEntity_body_iff {record : EntityRecord} :
    readEntity (Text.dropEndWhile Line.isTerminator (Record.entity record).body) = record ↔
      (Record.entity record).Fits := by
  obtain ⟨name, source⟩ := record
  cases source with
  | none =>
    rw [Record.body, Record.Fits]
    constructor
    · intro h
      -- With a separator on the line, the entity would have a class.
      rcases readEntity_cases (Text.dropEndWhile Line.isTerminator name.toList) with
        ⟨found, payload, heq, hfits⟩ | hnone
      · rw [heq, readEntity_append hfits] at h
        cases h
      · rw [readEntity_of_no_separator hnone,
          Text.trimEnd_dropEndWhile fun _ => isBlank_of_isTerminator, EntityRecord.mk.injEq,
          ← String.toList_inj, String.toList_ofList, Text.trimEnd_eq_self_iff] at h
        rw [Text.dropEndWhile_eq_self_of_endsBlank (fun _ => isBlank_of_isTerminator) h.1] at hnone
        exact ⟨hnone, h.1⟩
    · rintro ⟨hnone, hend⟩
      rw [Text.dropEndWhile_eq_self_of_endsBlank (fun _ => isBlank_of_isTerminator) hend,
        readEntity_of_no_separator hnone, Text.trimEnd_eq_self_iff.2 hend, String.ofList_toList]
  | some source =>
    obtain ⟨source⟩ := source
    have htrim := Text.trimEnd_dropEndWhile (fun _ => isBlank_of_isTerminator) source.toList
    rw [Record.body, Record.Fits, dropEndWhile_isTerminator_append]
    constructor
    · intro h
      rcases readEntity_cases
        (name.toList ++ nameSeparator ++ Text.dropEndWhile Line.isTerminator source.toList) with
        ⟨found, payload, heq, hfits⟩ | hnone
      · rw [heq, readEntity_append hfits, EntityRecord.mk.injEq, Option.some.injEq,
          SourcePath.mk.injEq] at h
        obtain ⟨rfl, hsource⟩ := h
        -- The name that is read is the one that was written, so the rest is the class.
        rw [String.toList_ofList] at heq ⊢
        rw [← List.append_cancel_left heq, htrim, ← String.toList_inj,
          String.toList_ofList] at hsource
        exact ⟨hfits, Text.trimEnd_eq_self_iff.1 hsource⟩
      · exact absurd (List.infix_append _ _ _) hnone
    · rintro ⟨hfits, hend⟩
      rw [readEntity_append hfits, htrim, Text.trimEnd_eq_self_iff.2 hend, String.ofList_toList,
        String.ofList_toList]

/-! ## Lines -/

/-- Dropping terminators does not reach the head of a line. -/
theorem dropEndWhile_line (record : Record) :
    Text.dropEndWhile Line.isTerminator record.line =
      record.family.tag.toList ++ tagSeparator ++
        Text.dropEndWhile Line.isTerminator record.body := by
  rw [Record.line_eq]
  refine dropEndWhile_isTerminator_of_space ?_ _
  rw [List.getLast?_append_of_ne_nil _ (by decide)]
  decide

/-- What is read from the line of a record is of the record's family. -/
theorem family_of_readLine_line {record found : Record}
    (h : readLine .blocks (Text.dropEndWhile Line.isTerminator record.line) = .ok found) :
    found.family = record.family := by
  obtain ⟨-, body, htext, -⟩ := readLine_eq_ok_iff.1 h
  have hfound := readTag_eq_ok_iff.2 htext
  rw [readTag_eq_ok_iff.2 (dropEndWhile_line record)] at hfound
  exact (congrArg Prod.fst (Except.ok.inj hfound)).symm

/-- A line with the tag of a record is read as the record iff the body is. -/
theorem readLine_append_iff {record : Record} {body : List Char} :
    readLine .blocks (record.family.tag.toList ++ tagSeparator ++ body) = .ok record ↔
      readBody record.family body = .ok record := by
  rw [readLine_eq_ok_iff]
  constructor
  · rintro ⟨-, found, heq, hread⟩
    rwa [List.append_cancel_left heq]
  · exact fun hread => ⟨Nat.zero_le _, _, rfl, hread⟩

/-- A record is read back from its line iff it fits. -/
theorem readLine_line_iff {record : Record} :
    readLine .blocks (Text.dropEndWhile Line.isTerminator record.line) = .ok record ↔
      record.Fits := by
  rw [dropEndWhile_line, readLine_append_iff]
  cases record with
  | block r =>
    rw [← readBlock_body_iff, Record.family, readBody_blocks_eq_ok_iff]
  | enum r =>
    rw [← readEnum_body_iff, Record.family, readBody, Except.ok.injEq, Record.enum.injEq]
  | entity r =>
    rw [← readEntity_body_iff, Record.family, readBody, Except.ok.injEq, Record.entity.injEq]
  | lineage r =>
    rw [← readClass_body_iff, Record.family, readBody, Except.ok.injEq, Record.lineage.injEq]

/-! ## Texts of a record that is read -/

/-- A text made of part of a body is part of the body. -/
theorem infix_ofList {part body : List Char} (h : part <:+: body) :
    (String.ofList part).toList <:+: body := by
  rwa [String.toList_ofList]

theorem infix_of_readBlock {body : List Char} {record : BlockRecord}
    (h : readBlock body = .ok record) : ∀ text ∈ (Record.block record).texts,
      text.toList <:+: body := by
  obtain ⟨hname, hpairs⟩ := readBlock_eq_ok_iff.1 h
  have hpayload := (infix_splitName body).2
  rw [Record.texts, List.forall_mem_cons]
  refine ⟨hname ▸ infix_ofList (infix_splitName body).1, ?_⟩
  simp only [List.mem_flatMap, List.mem_cons, List.not_mem_nil, or_false]
  rintro text ⟨pair, hpair, htext⟩
  -- A pair is read from a word of the payload, and both its texts are parts of that word.
  obtain ⟨hwords, -⟩ := mapM_readPair_eq_ok_iff.1 hpairs
  obtain ⟨-, -, hinfix⟩ := of_mem_words (hwords ▸ List.mem_map_of_mem hpair)
  rw [pairWord] at hinfix
  rcases htext with rfl | rfl
  · exact ((List.prefix_append _ _).isInfix.trans hinfix).trans hpayload
  · exact (((List.suffix_cons _ _).trans (List.suffix_append _ _)).isInfix.trans hinfix).trans
      hpayload

/-- The items that are read from a payload stand in the body. -/
theorem infix_of_mem_listItems {body : List Char} {item : String}
    (h : item ∈ (listItems (splitName body).2).map String.ofList) : item.toList <:+: body := by
  obtain ⟨part, hpart, rfl⟩ := List.mem_map.1 h
  exact infix_ofList ((of_mem_listItems hpart).2.2.trans (infix_splitName body).2)

theorem infix_of_readEntity (body : List Char) : ∀ text ∈ (Record.entity (readEntity body)).texts,
    text.toList <:+: body := by
  rcases readEntity_cases body with ⟨name, payload, rfl, hfits⟩ | hnone
  · rw [readEntity_append hfits]
    simp only [Record.texts, Option.toList_some, List.map_cons, List.map_nil,
      List.forall_mem_cons, List.not_mem_nil, false_implies, implies_true, and_true]
    refine ⟨infix_ofList ?_, infix_ofList ?_⟩
    · rw [List.append_assoc]
      exact (List.prefix_append _ _).isInfix
    · exact (Text.isPrefix_dropEndWhile _ _).isInfix.trans (List.suffix_append _ _).isInfix
  · rw [readEntity_of_no_separator hnone]
    simp only [Record.texts, Option.toList_none, List.map_nil, List.forall_mem_cons,
      List.not_mem_nil, false_implies, implies_true, and_true]
    exact infix_ofList (Text.isPrefix_dropEndWhile _ _).isInfix

/-- Every text of a record that is read stands on the line. -/
theorem infix_of_readLine {current : Section} {text : List Char} {record : Record}
    (h : readLine current text = .ok record) : ∀ part ∈ record.texts, part.toList <:+: text := by
  obtain ⟨-, body, rfl, hbody⟩ := readLine_eq_ok_iff.1 h
  have hread : ∀ part ∈ record.texts, part.toList <:+: body := by
    cases record with
    | block r =>
      exact infix_of_readBlock (readBody_blocks_eq_ok_iff.1 hbody)
    | enum r =>
      cases hbody
      rw [Record.texts, List.forall_mem_cons]
      exact ⟨infix_ofList (infix_splitName body).1, fun _ => infix_of_mem_listItems⟩
    | entity r =>
      cases hbody
      exact infix_of_readEntity body
    | lineage r =>
      cases hbody
      rw [Record.texts, List.forall_mem_cons]
      refine ⟨infix_ofList (infix_splitName body).1, fun item hitem => infix_of_mem_listItems ?_⟩
      simpa [readClass, Function.comp_def] using hitem
  exact fun part hpart => (hread part hpart).trans (List.suffix_append _ _).isInfix

end Report

end RegistrySchema
