import RegistrySchema.Proofs.Report.Lines

/-!
# The grammar of reports

What a text has to be for a report to be read from it, said without the reader: where the first
separators of a line are, what stands between them, and in what order the sections come. A text
that is not so is refused for the first line that is not, and for the first condition that fails
there.

* `Grammatical`: the lines that a report is read from.
* `Breaks`: the conditions in the order in which they count, each with the words in which it is
  reported (`Breaks.eq_message`).
* `grammatical_iff`, `readLines_eq_error_iff_breaks`: reading decides the grammar, and blames the
  first line that breaks it.
-/

namespace RegistrySchema.Report

/-! ## Conditions -/

/-- A text is cut at the first occurrence of a separator: no other one starts in front of it. -/
def FirstCut (sep before after text : List Char) : Prop :=
  text = before ++ sep ++ after ∧ ¬ sep <:+: before ++ sep.dropLast

/-- The tag of a section stands in front of the first tag separator of a line, and a body behind
it. -/
def Line.Holds (line : Line) (s : Section) (body : List Char) : Prop :=
  FirstCut tagSeparator s.tag.toList body line.text

/-- What a line has to be by itself. -/
structure Line.WellFormed (line : Line) : Prop where
  /-- There is a tag separator. -/
  separated : tagSeparator <:+: line.text
  /-- What stands in front of the first one is the tag of a section. -/
  tagged : ∀ tag body, FirstCut tagSeparator tag body line.text →
    ∃ s : Section, tag = s.tag.toList
  /-- Among the properties of a block every word has a colon. -/
  paired : ∀ body name payload, line.Holds .blocks body →
    FirstCut nameSeparator name payload body → ∀ word ∈ words payload, propertySeparator ∈ word

/-- What the lines of a report have to be. -/
structure Grammatical (lines : List Line) : Prop where
  /-- Each line by itself. -/
  wellFormed : ∀ line ∈ lines, line.WellFormed
  /-- No line belongs to a section in front of that of an earlier line. -/
  ordered : lines.Pairwise fun earlier later => ∀ s t body rest,
    earlier.Holds s body → later.Holds t rest → s.rank ≤ t.rank

/-- The last section that lines have reached; without lines it is the first one. -/
structure Reached (lines : List Line) (s : Section) : Prop where
  /-- A line belongs to it, unless it is where reports start. -/
  attained : s = .blocks ∨ ∃ line ∈ lines, ∃ body, line.Holds s body
  /-- No line belongs to a later one. -/
  latest : ∀ line ∈ lines, ∀ t body, line.Holds t body → t.rank ≤ s.rank

/-- The first condition that a line fails behind the lines before it, with what is said of it. -/
inductive Breaks (before : List Line) (line : Line) : LineFault → String → Prop where
  /-- There is no tag separator. -/
  | noSeparator (habsent : ¬ tagSeparator <:+: line.text) :
      Breaks before line .noSeparator "expected `<TAG> --- <name>`"
  /-- What stands in front of it is no tag. -/
  | unknownTag {tag body : List Char} (hcut : FirstCut tagSeparator tag body line.text)
      (hunknown : ∀ s : Section, tag ≠ s.tag.toList) :
      Breaks before line (.unknownTag (String.ofList tag))
        ("unknown record tag `" ++ String.ofList tag ++ "`")
  /-- A later section was reached before; the tags of both sections are named. -/
  | outOfOrder {found reached : Section} {body : List Char} (hholds : line.Holds found body)
      (hreached : Reached before reached) (hlater : found.rank < reached.rank) :
      Breaks before line (.outOfOrder found reached)
        (found.tag ++ " record after the " ++ reached.tag ++ " section")
  /-- A word among the properties of a block has no colon, and it is the first one. -/
  | noPair {body name payload word : List Char} {pairs rest : List (List Char)}
      (hholds : line.Holds .blocks body) (hreached : Reached before .blocks)
      (hname : FirstCut nameSeparator name payload body)
      (hwords : words payload = pairs ++ word :: rest)
      (hpairs : ∀ pair ∈ pairs, propertySeparator ∈ pair) (hcolon : propertySeparator ∉ word) :
      Breaks before line (.noPair (String.ofList word))
        ("expected `<property>:<tag>`, found `" ++ String.ofList word ++ "`")

/-! ## Messages -/

/-- What is said of a condition is the message of the fault. -/
theorem Breaks.eq_message {before : List Line} {line : Line} {fault : LineFault} {text : String}
    (h : Breaks before line fault text) : text = fault.message := by
  cases h <;> rfl

/-- An error says on which line it is, and what is wrong there. -/
theorem Breaks.readError_message {before : List Line} {line : Line} {err : ReadError}
    {text : String} (h : Breaks before line err.fault text) (hline : err.line = line.number) :
    err.message = "report line " ++ toString line.number ++ ": " ++ text := by
  rw [ReadError.message, hline, h.eq_message]

/-! ## Sections -/

theorem eq_of_rank_eq {s t : Section} (h : s.rank = t.rank) : s = t := by
  cases s <;> cases t <;> first | rfl | cases h

theorem Reached.rank_le {lines : List Line} {s t : Section} (hs : Reached lines s)
    (ht : Reached lines t) : s.rank ≤ t.rank := by
  rcases hs.attained with rfl | ⟨line, hmem, body, hholds⟩
  · exact Nat.zero_le _
  · exact ht.latest line hmem s body hholds

theorem Reached.unique {lines : List Line} {s t : Section} (hs : Reached lines s)
    (ht : Reached lines t) : s = t :=
  eq_of_rank_eq (Nat.le_antisymm (hs.rank_le ht) (ht.rank_le hs))

/-! ## Tags -/

theorem tagSeparator_ne_nil : tagSeparator ≠ [] := by decide

theorem splitOnce_eq_some_iff_firstCut {sep before after text : List Char} (hsep : sep ≠ []) :
    Text.splitOnce sep text = some (before, after) ↔ FirstCut sep before after text :=
  Text.splitOnce_eq_some_iff hsep

theorem readTag_eq_ok_iff_holds {line : Line} {s : Section} {body : List Char} :
    readTag line.text = .ok (s, body) ↔ line.Holds s body := by
  rw [readTag_eq_ok_iff, Line.Holds, ← splitOnce_eq_some_iff_firstCut tagSeparator_ne_nil]
  constructor
  · -- No tag has a part in the separator behind it, so that separator is the first one.
    intro htext
    rw [htext, splitOnce_tag]
  · exact Text.eq_of_splitOnce

theorem Line.Holds.unique {line : Line} {s t : Section} {body rest : List Char}
    (h : line.Holds s body) (h' : line.Holds t rest) : s = t ∧ body = rest := by
  have hread := (readTag_eq_ok_iff_holds.2 h).symm.trans (readTag_eq_ok_iff_holds.2 h')
  simpa using hread

theorem ofTag?_eq_none_iff {tag : List Char} :
    Section.ofTag? (String.ofList tag) = none ↔ ∀ s : Section, tag ≠ s.tag.toList := by
  rw [Option.eq_none_iff_forall_not_mem]
  refine forall_congr' fun s => not_congr ?_
  rw [Option.mem_def, Section.ofTag?_eq_some_iff, ← String.toList_inj, String.toList_ofList]
  exact eq_comm

theorem readTag_eq_error_iff {text : List Char} {fault : LineFault} :
    readTag text = .error fault ↔
      (¬ tagSeparator <:+: text ∧ fault = .noSeparator) ∨
        ∃ tag body, FirstCut tagSeparator tag body text ∧ (∀ s : Section, tag ≠ s.tag.toList) ∧
          fault = .unknownTag (String.ofList tag) := by
  simp only [← splitOnce_eq_some_iff_firstCut tagSeparator_ne_nil, ← Text.splitOnce_eq_none_iff,
    ← ofTag?_eq_none_iff]
  unfold readTag
  cases hsplit : Text.splitOnce tagSeparator text with
  | none => simp [eq_comm]
  | some parts =>
    obtain ⟨tag, body⟩ := parts
    cases hsection : Section.ofTag? (String.ofList tag) with
    | none => simp [hsection, eq_comm]
    | some s => simp [hsection]

/-! ## Bodies -/

/-- The words of a block stand behind the first name separator of the body; without one there are
none. -/
theorem words_splitName_eq_append_cons_iff {body word : List Char} {front back : List (List Char)} :
    words (splitName body).2 = front ++ word :: back ↔
      ∃ name payload, FirstCut nameSeparator name payload body ∧
        words payload = front ++ word :: back := by
  simp only [← splitOnce_eq_some_iff_firstCut nameSeparator_ne_nil]
  unfold splitName
  cases Text.splitOnce nameSeparator body with
  | some parts => simp [Prod.ext_iff]
  | none =>
    -- The payload is empty, whether or not a dash stands at the end of the body.
    have hnil : words [] = [] := rfl
    dsimp only
    split <;> simp [hnil]

/-- Only the body of a block can be refused, for the first word without a colon. -/
theorem readBody_eq_error_iff {s : Section} {body : List Char} {fault : LineFault} :
    readBody s body = .error fault ↔ s = .blocks ∧
      ∃ name payload pairs word rest, FirstCut nameSeparator name payload body ∧
        words payload = pairs ++ word :: rest ∧ (∀ pair ∈ pairs, propertySeparator ∈ pair) ∧
        propertySeparator ∉ word ∧ fault = .noPair (String.ofList word) := by
  cases s with
  | blocks =>
    have hmap : readBody .blocks body = .error fault ↔ readBlock body = .error fault := by
      rw [readBody]
      cases readBlock body <;> simp [Except.map]
    rw [hmap, readBlock_eq_error_iff, mapM_eq_error_iff, and_iff_right rfl]
    simp only [exists_readPair_ok_iff, readPair_eq_error_iff, words_splitName_eq_append_cons_iff]
    constructor
    · rintro ⟨pairs, word, rest, ⟨name, payload, hname, hwords⟩, hpairs, hcolon, hfault⟩
      exact ⟨name, payload, pairs, word, rest, hname, hwords, hpairs, hcolon, hfault⟩
    · rintro ⟨name, payload, pairs, word, rest, hname, hwords, hpairs, hcolon, hfault⟩
      exact ⟨pairs, word, rest, ⟨name, payload, hname, hwords⟩, hpairs, hcolon, hfault⟩
  | enums | entities | classes => simp [readBody]

/-! ## Lines -/

theorem exists_ok_iff {α ε : Type} {result : Except ε α} :
    (∃ a, result = .ok a) ↔ ∀ err, result ≠ .error err := by
  cases result <;> simp

/-- A line is read by itself iff it is well-formed. -/
theorem wellFormed_iff {line : Line} :
    line.WellFormed ↔ ∃ record, readLine .blocks line.text = .ok record := by
  rw [exists_ok_iff]
  constructor
  · intro h fault hfault
    rcases readLine_eq_error_iff.1 hfault with htag | ⟨found, body, htag, ⟨hrank, -⟩ | ⟨-, hbody⟩⟩
    · rcases readTag_eq_error_iff.1 htag with ⟨habsent, -⟩ | ⟨tag, body, hcut, hunknown, -⟩
      · exact habsent h.separated
      · obtain ⟨s, hs⟩ := h.tagged tag body hcut
        exact hunknown s hs
    · exact absurd hrank (Nat.not_lt_zero _)
    · obtain ⟨rfl, name, payload, pairs, word, rest, hname, hwords, -, hcolon, -⟩ :=
        readBody_eq_error_iff.1 hbody
      have hword : word ∈ words payload := by simp [hwords]
      exact hcolon (h.paired body name payload (readTag_eq_ok_iff_holds.1 htag) hname word hword)
  · intro h
    have htag : ∀ fault, readTag line.text ≠ .error fault := fun fault hfault =>
      h fault (readLine_eq_error_iff.2 (Or.inl hfault))
    constructor
    · by_contra habsent
      exact htag _ (readTag_eq_error_iff.2 (Or.inl ⟨habsent, rfl⟩))
    · intro tag body hcut
      by_contra hunknown
      exact htag _ (readTag_eq_error_iff.2 (Or.inr ⟨tag, body, hcut, not_exists.1 hunknown, rfl⟩))
    · intro body name payload hholds hname word hword
      by_contra hcolon
      -- There is a first word without a colon.
      have hsome : ((words payload).find? fun word => decide (propertySeparator ∉ word)).isSome :=
        List.find?_isSome.2 ⟨word, hword, by simpa using hcolon⟩
      obtain ⟨first, hfirst⟩ := Option.isSome_iff_exists.1 hsome
      obtain ⟨hcolon, pairs, rest, hwords, hpairs⟩ := List.find?_eq_some_iff_append.1 hfirst
      have hbody : readBody .blocks body = .error (.noPair (String.ofList first)) :=
        readBody_eq_error_iff.2 ⟨rfl, name, payload, pairs, first, rest, hname, hwords,
          by simpa using hpairs, by simpa using hcolon, rfl⟩
      exact h _ (readLine_eq_error_iff.2
        (Or.inr ⟨_, body, readTag_eq_ok_iff_holds.2 hholds, Or.inr ⟨Nat.zero_le _, hbody⟩⟩))

theorem family_eq_of_holds {line : Line} {record : Record} {s : Section} {body : List Char}
    (hread : readLine .blocks line.text = .ok record) (hholds : line.Holds s body) :
    record.family = s := by
  obtain ⟨-, found, htext, -⟩ := readLine_eq_ok_iff.1 hread
  have hfound : line.Holds record.family found :=
    readTag_eq_ok_iff_holds.1 (readTag_eq_ok_iff.2 htext)
  exact (hfound.unique hholds).1

theorem exists_holds_of_readLine {line : Line} {record : Record}
    (hread : readLine .blocks line.text = .ok record) :
    ∃ body, line.Holds record.family body ∧ readBody record.family body = .ok record := by
  obtain ⟨-, body, htext, hbody⟩ := readLine_eq_ok_iff.1 hread
  exact ⟨body, readTag_eq_ok_iff_holds.1 (readTag_eq_ok_iff.2 htext), hbody⟩

/-- Behind lines that have reached a section, a line is refused iff it breaks the grammar. -/
theorem readLine_eq_error_iff_breaks {before : List Line} {line : Line} {current : Section}
    {fault : LineFault} (hreached : Reached before current) :
    readLine current line.text = .error fault ↔ ∃ text, Breaks before line fault text := by
  -- The reader's conditions are those of the grammar, with the section it keeps for the one that
  -- was reached.
  rw [readLine_eq_error_iff, readTag_eq_error_iff]
  simp only [readTag_eq_ok_iff_holds, readBody_eq_error_iff]
  constructor
  · rintro ((⟨habsent, rfl⟩ | ⟨tag, body, hcut, hunknown, rfl⟩) | ⟨found, body, hholds, hcase⟩)
    · exact ⟨_, .noSeparator habsent⟩
    · exact ⟨_, .unknownTag hcut hunknown⟩
    · rcases hcase with ⟨hlater, rfl⟩ | ⟨hle, rfl, name, payload, pairs, word, rest, hname, hwords,
        hpairs, hcolon, rfl⟩
      · exact ⟨_, .outOfOrder hholds hreached hlater⟩
      · -- Only the first section is not behind the first one.
        have hfirst : current = .blocks := by
          cases current <;> simp_all [Section.rank]
        exact ⟨_, .noPair hholds (hfirst ▸ hreached) hname hwords hpairs hcolon⟩
  · rintro ⟨text, h⟩
    cases h with
    | noSeparator habsent => exact Or.inl (Or.inl ⟨habsent, rfl⟩)
    | unknownTag hcut hunknown => exact Or.inl (Or.inr ⟨_, _, hcut, hunknown, rfl⟩)
    | outOfOrder hholds hreached' hlater =>
      rw [hreached'.unique hreached] at hlater ⊢
      exact Or.inr ⟨_, _, hholds, Or.inl ⟨hlater, rfl⟩⟩
    | noPair hholds hreached' hname hwords hpairs hcolon =>
      rw [← hreached'.unique hreached]
      exact Or.inr ⟨_, _, hholds, Or.inr ⟨le_rfl, rfl, _, _, _, _, _, hname, hwords, hpairs,
        hcolon, rfl⟩⟩

/-! ## Runs of lines -/

theorem readLines_cons_of_error {current : Section} {line : Line} {fault : LineFault}
    (h : readLine current line.text = .error fault) (lines : List Line) :
    readLines current (line :: lines) = .error ⟨line.number, fault⟩ := by
  rw [readLines, h]

theorem readLines_cons_of_ok {current : Section} {line : Line} {record : Record}
    (h : readLine current line.text = .ok record) (lines : List Line) :
    readLines current (line :: lines) =
      (readLines record.family lines).map (⟨record, line.span, line.number⟩ :: ·) := by
  rw [readLines, h]
  cases hlines : readLines record.family lines <;>
    simp [hlines, bind, Except.bind, pure, Except.pure, Except.map]

theorem readLines_cons_eq_ok_iff_of_ok {current : Section} {line : Line} {record : Record}
    (h : readLine current line.text = .ok record) {lines : List Line}
    {entries : List (Located Record)} :
    readLines current (line :: lines) = .ok entries ↔
      ∃ others, readLines record.family lines = .ok others ∧
        entries = ⟨record, line.span, line.number⟩ :: others := by
  rw [readLines_cons_of_ok h]
  cases readLines record.family lines <;> simp [Except.map, eq_comm]

theorem readLines_cons_eq_error_iff_of_ok {current : Section} {line : Line} {record : Record}
    (h : readLine current line.text = .ok record) {lines : List Line} {err : ReadError} :
    readLines current (line :: lines) = .error err ↔
      readLines record.family lines = .error err := by
  rw [readLines_cons_of_ok h]
  cases readLines record.family lines <;> simp [Except.map]

/-- The section that is reached when entries were read. -/
def sectionAfter (current : Section) (entries : List (Located Record)) : Section :=
  entries.foldl (fun _ entry => entry.record.family) current

/-- Reading fails at the first line that is refused behind the lines before it. -/
theorem readLines_eq_error_iff {current : Section} {lines : List Line} {err : ReadError} :
    readLines current lines = .error err ↔ ∃ good line rest entries,
      lines = good ++ line :: rest ∧ readLines current good = .ok entries ∧
        readLine (sectionAfter current entries) line.text = .error err.fault ∧
        err.line = line.number := by
  obtain ⟨number, fault⟩ := err
  -- Each line moves the section on, so the one to start from is general in the induction.
  induction lines generalizing current with
  | nil => simp [readLines]
  | cons line lines ih =>
    simp only [List.cons_eq_append_iff]
    cases hline : readLine current line.text with
    | error found =>
      rw [readLines_cons_of_error hline, Except.error.injEq, ReadError.mk.injEq]
      constructor
      · rintro ⟨rfl, rfl⟩
        exact ⟨[], line, lines, [], Or.inl ⟨rfl, rfl⟩, rfl, hline, rfl⟩
      · rintro ⟨good, bad, rest, entries, ⟨rfl, heq⟩ | ⟨others, rfl, -⟩, hgood, hbad, hnumber⟩
        · obtain ⟨rfl, rfl⟩ := List.cons.inj heq
          cases hgood
          have hfault := hline.symm.trans hbad
          exact ⟨hnumber.symm, Except.error.inj hfault⟩
        · rw [readLines_cons_of_error hline] at hgood
          cases hgood
    | ok record =>
      rw [readLines_cons_eq_error_iff_of_ok hline, ih]
      constructor
      · rintro ⟨good, bad, rest, entries, rfl, hgood, hbad, hnumber⟩
        have hread := (readLines_cons_eq_ok_iff_of_ok hline).2 ⟨entries, hgood, rfl⟩
        exact ⟨line :: good, bad, rest, _, Or.inr ⟨good, rfl, rfl⟩, hread, hbad, hnumber⟩
      · rintro ⟨good, bad, rest, entries, ⟨rfl, heq⟩ | ⟨others, rfl, rfl⟩, hgood, hbad, hnumber⟩
        · obtain ⟨rfl, rfl⟩ := List.cons.inj heq
          cases hgood
          have hfault := hline.symm.trans hbad
          cases hfault
        · obtain ⟨found, hothers, rfl⟩ := (readLines_cons_eq_ok_iff_of_ok hline).1 hgood
          exact ⟨others, bad, rest, found, rfl, hothers, hbad, hnumber⟩

theorem pairwise_iff_of_readFrom {lines : List Line} {entries : List (Located Record)}
    (h : List.Forall₂ ReadFrom lines entries) :
    (lines.Pairwise fun earlier later => ∀ s t body rest,
        earlier.Holds s body → later.Holds t rest → s.rank ≤ t.rank) ↔
      (entries.map familyRank).Pairwise (· ≤ ·) := by
  -- The only section of a line is the family of its entry.
  have hpair : ∀ {earlier later : Line} {entry other : Located Record}, ReadFrom earlier entry →
      ReadFrom later other →
      ((∀ s t body rest, earlier.Holds s body → later.Holds t rest → s.rank ≤ t.rank) ↔
        familyRank entry ≤ familyRank other) := by
    intro earlier later entry other hearlier hlater
    constructor
    · intro hle
      obtain ⟨body, hbody, -⟩ := exists_holds_of_readLine hearlier.1
      obtain ⟨rest, hrest, -⟩ := exists_holds_of_readLine hlater.1
      exact hle _ _ body rest hbody hrest
    · intro hle s t body rest hbody hrest
      rw [← family_eq_of_holds hearlier.1 hbody, ← family_eq_of_holds hlater.1 hrest]
      exact hle
  induction h with
  | nil => simp
  | cons hread hrest ih =>
    rw [List.pairwise_cons, List.map_cons, List.pairwise_cons, List.forall_mem_map]
    refine and_congr ⟨fun h other hother => ?_, fun h later hlater => ?_⟩ ih
    · obtain ⟨later, hlater, hreadLater⟩ := exists_mem_of_forall₂ hrest hother
      exact (hpair hread hreadLater).1 (h later hlater)
    · obtain ⟨other, hother, hreadLater⟩ := exists_mem_of_forall₂ hrest.flip hlater
      exact (hpair hread hreadLater).2 (h other hother)

theorem exists_readFrom_of_wellFormed {lines : List Line} (h : ∀ line ∈ lines, line.WellFormed) :
    ∃ entries, List.Forall₂ ReadFrom lines entries := by
  induction lines with
  | nil => exact ⟨[], .nil⟩
  | cons line lines ih =>
    obtain ⟨hline, hlines⟩ := List.forall_mem_cons.1 h
    obtain ⟨record, hrecord⟩ := wellFormed_iff.1 hline
    obtain ⟨entries, hentries⟩ := ih hlines
    exact ⟨⟨record, line.span, line.number⟩ :: entries, .cons ⟨hrecord, rfl, rfl⟩ hentries⟩

/-- Lines are read iff they are grammatical. -/
theorem grammatical_iff {lines : List Line} :
    Grammatical lines ↔ ∃ entries, readLines .blocks lines = .ok entries := by
  simp only [readLines_eq_ok_iff, pairwise_rank_blocks_cons_iff]
  constructor
  · rintro ⟨hwellFormed, hordered⟩
    obtain ⟨entries, hentries⟩ := exists_readFrom_of_wellFormed hwellFormed
    exact ⟨entries, hentries, (pairwise_iff_of_readFrom hentries).1 hordered⟩
  · rintro ⟨entries, hentries, hsorted⟩
    refine ⟨fun line hline => ?_, (pairwise_iff_of_readFrom hentries).2 hsorted⟩
    obtain ⟨entry, -, hread⟩ := exists_mem_of_forall₂ hentries.flip hline
    exact wellFormed_iff.2 ⟨entry.record, hread.1⟩

/-- The section after entries in section order is the last of theirs, and the one before them if
there are none. -/
theorem sectionAfter_spec {current : Section} {entries : List (Located Record)}
    (h : (current.rank :: entries.map familyRank).Pairwise (· ≤ ·)) :
    (sectionAfter current entries = current ∨
        ∃ entry ∈ entries, entry.record.family = sectionAfter current entries) ∧
      current.rank ≤ (sectionAfter current entries).rank ∧
      ∀ entry ∈ entries, familyRank entry ≤ (sectionAfter current entries).rank := by
  induction entries generalizing current with
  | nil => exact ⟨Or.inl rfl, le_rfl, by simp⟩
  | cons entry entries ih =>
    obtain ⟨hcurrent, hrest⟩ := List.pairwise_cons.1 h
    obtain ⟨hattained, hle, hlatest⟩ := ih hrest
    have hstep : sectionAfter current (entry :: entries) =
        sectionAfter entry.record.family entries := rfl
    rw [hstep]
    refine ⟨Or.inr ?_, (hcurrent _ List.mem_cons_self).trans hle, ?_⟩
    · rcases hattained with heq | ⟨other, hother, heq⟩
      · exact ⟨entry, List.mem_cons_self, heq.symm⟩
      · exact ⟨other, List.mem_cons_of_mem _ hother, heq⟩
    · exact List.forall_mem_cons.2 ⟨hle, hlatest⟩

theorem reached_of_readLines {lines : List Line} {entries : List (Located Record)}
    (h : readLines .blocks lines = .ok entries) : Reached lines (sectionAfter .blocks entries) := by
  obtain ⟨hread, hsorted⟩ := readLines_eq_ok_iff.1 h
  obtain ⟨hattained, -, hlatest⟩ := sectionAfter_spec hsorted
  refine ⟨hattained.imp_right ?_, fun line hline t body hholds => ?_⟩
  · rintro ⟨entry, hentry, heq⟩
    obtain ⟨line, hline, hfrom⟩ := exists_mem_of_forall₂ hread hentry
    obtain ⟨body, hbody, -⟩ := exists_holds_of_readLine hfrom.1
    exact ⟨line, hline, body, heq ▸ hbody⟩
  · obtain ⟨entry, hentry, hfrom⟩ := exists_mem_of_forall₂ hread.flip hline
    rw [← family_eq_of_holds hfrom.1 hholds]
    exact hlatest entry hentry

/-- Reading fails at the first line that breaks the grammar. -/
theorem readLines_eq_error_iff_breaks {lines : List Line} {err : ReadError} :
    readLines .blocks lines = .error err ↔ ∃ before line after text,
      lines = before ++ line :: after ∧ Grammatical before ∧ Breaks before line err.fault text ∧
        err.line = line.number ∧
        err.message = "report line " ++ toString line.number ++ ": " ++ text := by
  rw [readLines_eq_error_iff]
  constructor
  · rintro ⟨before, line, after, entries, hlines, hread, hfault, hnumber⟩
    have hreached := reached_of_readLines hread
    obtain ⟨text, hbreaks⟩ := (readLine_eq_error_iff_breaks hreached).1 hfault
    exact ⟨before, line, after, text, hlines, grammatical_iff.2 ⟨entries, hread⟩, hbreaks, hnumber,
      hbreaks.readError_message hnumber⟩
  · rintro ⟨before, line, after, text, hlines, hbefore, hbreaks, hnumber, -⟩
    obtain ⟨entries, hread⟩ := grammatical_iff.1 hbefore
    have hreached := reached_of_readLines hread
    exact ⟨before, line, after, entries, hlines, hread,
      (readLine_eq_error_iff_breaks hreached).2 ⟨text, hbreaks⟩, hnumber⟩

/-- Lines behind the failing one do not matter. -/
theorem readLines_append_eq_error_iff {current : Section} {lines others : List Line}
    {err : ReadError} (h : ∀ line ∈ others, line.number ≠ err.line) :
    readLines current (lines ++ others) = .error err ↔ readLines current lines = .error err := by
  induction lines generalizing current with
  | nil =>
    have hothers : readLines current others ≠ .error err := by
      intro herr
      obtain ⟨good, line, rest, -, rfl, -, -, hnumber⟩ := readLines_eq_error_iff.1 herr
      exact h line (by simp) hnumber.symm
    simpa [readLines] using hothers
  | cons line lines ih =>
    rw [List.cons_append]
    cases hline : readLine current line.text with
    | error fault => rw [readLines_cons_of_error hline, readLines_cons_of_error hline]
    | ok record =>
      rw [readLines_cons_eq_error_iff_of_ok hline, readLines_cons_eq_error_iff_of_ok hline, ih]

/-! ## Texts -/

theorem exists_parse_ok_iff {source : String} :
    (∃ report, parse source = .ok report) ↔ Grammatical (Line.written source.toList) := by
  rw [grammatical_iff, parse]
  cases readLines .blocks (Line.written source.toList) <;> simp [Except.map]

theorem parse_eq_error_iff {source : String} {err : ReadError} :
    parse source = .error err ↔ readLines .blocks (Line.written source.toList) = .error err := by
  rw [parse]
  cases readLines .blocks (Line.written source.toList) <;> simp [Except.map]

theorem number_of_mem_carrying {number start : Nat} {pieces : List (List Char)} {line : Line}
    (h : line ∈ carrying number start pieces) :
    number ≤ line.number ∧ line.number < number + pieces.length := by
  have hmem : line.number ∈ (Line.numbered number start pieces).map Line.number :=
    List.mem_map_of_mem (List.mem_of_mem_filter h)
  rw [map_number_numbered, List.mem_range'_1] at hmem
  exact hmem

/-- What stands behind a line feed comes on later lines. -/
theorem written_append_lineFeed (head tail : List Char) :
    ∃ others, Line.written (head ++ '\n' :: tail) = Line.written head ++ others ∧
      ∀ line ∈ others, head.count '\n' + 1 < line.number := by
  refine ⟨carrying (1 + (head.count '\n' + 1))
    (0 + Text.byteLength (linesText (Text.pieces '\n' head))) (Text.pieces '\n' tail), ?_,
    fun line hline => ?_⟩
  · rw [Line.written, Line.all, Text.pieces_append_sep, ← carrying, carrying_append,
      Text.length_pieces]
    rfl
  · have hnumber := (number_of_mem_carrying hline).1
    omega

theorem parse_append_eq_error_iff {head tail : String} {err : ReadError}
    (h : err.line ≤ head.toList.count '\n' + 1) :
    parse (head ++ "\n" ++ tail) = .error err ↔ parse head = .error err := by
  have hchars : (head ++ "\n" ++ tail).toList = head.toList ++ '\n' :: tail.toList := by
    simp
  -- The failing line is one of `head`, as those behind the line feed have greater numbers.
  obtain ⟨others, hwritten, hlater⟩ := written_append_lineFeed head.toList tail.toList
  rw [parse_eq_error_iff, parse_eq_error_iff, hchars, hwritten]
  refine readLines_append_eq_error_iff fun line hline => ?_
  have hnumber := hlater line hline
  omega

/-! ## Families -/

/-- The entries of one family. -/
def family (report : Report) : Section → List (Located Record)
  | .blocks => report.blocks.map (Located.map .block)
  | .enums => report.enums.map (Located.map .enum)
  | .entities => report.entities.map (Located.map .entity)
  | .classes => report.classes.map (Located.map .lineage)

/-- The entry of a line: the record that is read from the body behind the section's tag, with the
place of the line. -/
def EntryOf (s : Section) (line : Line) (entry : Located Record) : Prop :=
  (∃ body, line.Holds s body ∧ readBody s body = .ok entry.record) ∧
    entry.span = line.span ∧ entry.line = line.number

theorem filter_entries (report : Report) (s : Section) :
    report.entries.filter (fun entry => decide (entry.record.family = s)) = report.family s := by
  cases s <;>
    simp [entries, family, List.filter_map, Function.comp_def, Located.map, Record.family]

/-- The line of a record begins with the tag of the record's family, and with no other. -/
theorem tag_isPrefix_iff {line : Line} {record : Record}
    (hread : readLine .blocks line.text = .ok record) (s : Section) :
    s.tag.toList ++ tagSeparator <+: line.text ↔ record.family = s := by
  constructor
  · rintro ⟨body, htext⟩
    exact family_eq_of_holds hread (readTag_eq_ok_iff_holds.1 (readTag_eq_ok_iff.2 htext.symm))
  · rintro rfl
    obtain ⟨-, body, htext, -⟩ := readLine_eq_ok_iff.1 hread
    rw [htext]
    exact List.prefix_append _ _

/-- The lines with a tag yield the entries of its section. -/
theorem forall₂_filter_of_readFrom {lines : List Line} {entries : List (Located Record)}
    (h : List.Forall₂ ReadFrom lines entries) (s : Section) :
    List.Forall₂ (EntryOf s)
      (lines.filter fun line => decide (s.tag.toList ++ tagSeparator <+: line.text))
      (entries.filter fun entry => decide (entry.record.family = s)) := by
  induction h with
  | nil => exact .nil
  | @cons line entry lines entries hread _ ih =>
    have htag := tag_isPrefix_iff hread.1 s
    by_cases hfamily : entry.record.family = s
    · rw [List.filter_cons_of_pos (by simpa using htag.2 hfamily),
        List.filter_cons_of_pos (by simpa using hfamily)]
      have hbody := exists_holds_of_readLine hread.1
      exact .cons ⟨hfamily ▸ hbody, hread.2⟩ ih
    · rw [List.filter_cons_of_neg (by simpa using mt htag.1 hfamily),
        List.filter_cons_of_neg (by simpa using hfamily)]
      exact ih

/-- A report is read from a text iff the lines of the text are grammatical. Otherwise the first
line that is not is blamed for the first condition that it fails, with its number and in the words
of that condition, whatever stands behind it. Each family of a report has one record for every line with its tag, and no other. -/
theorem parse_accepts_and_blames :
    (∀ source : String, (∃ report, parse source = .ok report) ↔
      Grammatical (Line.written source.toList)) ∧
    (∀ (source : String) (err : ReadError), parse source = .error err ↔
      ∃ before line after text, Line.written source.toList = before ++ line :: after ∧
        Grammatical before ∧ Breaks before line err.fault text ∧ err.line = line.number ∧
        err.message = "report line " ++ toString line.number ++ ": " ++ text) ∧
    (∀ (head tail : String) (err : ReadError), err.line ≤ head.toList.count '\n' + 1 →
      (parse (head ++ "\n" ++ tail) = .error err ↔ parse head = .error err)) ∧
    ∀ (source : String) (report : Report), parse source = .ok report → ∀ s : Section,
      List.Forall₂ (EntryOf s)
        ((Line.written source.toList).filter fun line =>
          decide (s.tag.toList ++ tagSeparator <+: line.text)) (report.family s) := by
  refine ⟨fun _ => exists_parse_ok_iff, fun source err => ?_, fun head tail err hline => ?_,
    fun source report hparse s => ?_⟩
  · rw [parse_eq_error_iff]
    exact readLines_eq_error_iff_breaks
  · exact parse_append_eq_error_iff hline
  · rw [← filter_entries]
    exact forall₂_filter_of_readFrom (forall₂_entries_of_parse hparse) s

/-- A block behind an enum type, and a word without a colon on the same line. -/
def tangled : String := "ENUMINFO --- E - a,b\n\t\nBLOCKINFO --- lamp - lit\r"

/-- Empty names and properties, a dash without a payload, and empty lines: all of it is read. -/
def lax : String :=
  "BLOCKINFO --- - - u: :v\r\n \n\nENUMINFO --- E -\r\nENUMINFO ---  - ,x, ,"

/-- Texts that are refused, one for each condition, with the message. -/
def refusals : List (String × String) :=
  [("\n \nlamp - lit:Bool", "report line 3: expected `<TAG> --- <name>`"),
    ("BLOCKINFO --- lamp - lit:Bool\nBlockInfo --- lamp - lit",
      "report line 2: unknown record tag `BlockInfo`"),
    (tangled, "report line 3: BLOCKINFO record after the ENUMINFO section"),
    ("BLOCKINFO --- lamp - hue:Hue  lit unlit",
      "report line 1: expected `<property>:<tag>`, found `lit`")]

/-- The message names the line, both sections and nothing that stands further down. -/
theorem parse_accepts_and_blames_tangled :
    (∀ tail : String, ∃ err,
      parse (tangled ++ "\n" ++ tail) = .error err ∧ err.fault = .outOfOrder .blocks .enums ∧
        err.line = 3 ∧
        err.message = "report line 3: BLOCKINFO record after the ENUMINFO section") ∧
    (∀ refusal ∈ refusals, ∃ err, parse refusal.1 = .error err ∧ err.message = refusal.2) ∧
    ∃ report, parse lax = .ok report ∧
      List.Forall₂ (EntryOf .enums)
        [⟨4, 28, "ENUMINFO --- E -".toList⟩, ⟨5, 46, "ENUMINFO ---  - ,x, ,".toList⟩]
        (report.family .enums) := by
  obtain ⟨-, -, hblame, hfamilies⟩ := parse_accepts_and_blames
  have htangled : parse tangled = .error ⟨3, .outOfOrder .blocks .enums⟩ := by decide +kernel
  refine ⟨fun tail => ⟨_, (hblame tangled tail _ (by decide +kernel)).2 htangled, rfl, rfl, ?_⟩,
    ?_, ?_⟩
  · decide +kernel
  · -- Each of the texts has its own fault, and the message follows from it.
    rintro refusal (_ | ⟨_, _ | ⟨_, _ | ⟨_, _ | ⟨_, ⟨⟩⟩⟩⟩⟩)
    · exact ⟨⟨3, .noSeparator⟩, by decide +kernel, by decide +kernel⟩
    · exact ⟨⟨2, .unknownTag "BlockInfo"⟩, by decide +kernel, by decide +kernel⟩
    · exact ⟨_, htangled, by decide +kernel⟩
    · exact ⟨⟨1, .noPair "lit"⟩, by decide +kernel, by decide +kernel⟩
  let report : Report :=
    ⟨[⟨⟨"-", [("u", .named ""), ("", .named "v")]⟩, ⟨0, 23⟩, 1⟩],
      [⟨⟨"E", []⟩, ⟨28, 44⟩, 4⟩, ⟨⟨"", ["x", " "]⟩, ⟨46, 67⟩, 5⟩], [], []⟩
  have hparse : parse lax = .ok report := by decide +kernel
  have hlines : ((Line.written lax.toList).filter fun line =>
      decide (Section.enums.tag.toList ++ tagSeparator <+: line.text)) =
        [⟨4, 28, "ENUMINFO --- E -".toList⟩, ⟨5, 46, "ENUMINFO ---  - ,x, ,".toList⟩] := by
    decide +kernel
  exact ⟨report, hparse, hlines ▸ hfamilies lax report hparse .enums⟩

end RegistrySchema.Report
