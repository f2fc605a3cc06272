import RegistrySchema.Proofs.Report.Lines

/-!
# Where the records of a report stand

The place of a record is exact: its number counts the line feeds in front of its line, and its span
are the bytes of the line from behind a line feed up to the carriage returns and the line feed at
its end. Lines come one behind the other, so places do not overlap and numbers and offsets grow
through all four families.

* `exists_isPlaced_of_mem_all`: the place of each line, blank or not.
* `pairwise_all`: lines lie one behind the other.
* `places_of_parse`: what that means for the entries of a report.
-/

namespace RegistrySchema.Report

/-- A line with its number and its span stands in a text behind `before`; it is followed by
carriage returns and by `after`. Offsets are those between whole characters. -/
structure IsPlaced (source : List Char) (number : Nat) (span : Span)
    (before text returns after : List Char) : Prop where
  /-- The parts make up the text. -/
  source_eq : source = before ++ text ++ returns ++ after
  /-- The span begins behind what is before the line. -/
  start_eq : span.start = Text.byteLength before
  /-- The span ends behind the line. -/
  stop_eq : span.stop = Text.byteLength (before ++ text)
  /-- The number counts the line feeds before the line. -/
  number_eq : number = before.count '\n' + 1
  /-- The line begins with the text or behind a line feed. -/
  before_ends : before = [] ∨ before.getLast? = some '\n'
  /-- It is one line. -/
  lineFeed_not_mem : '\n' ∉ text
  /-- The carriage returns at its end are not part of it. -/
  getLast?_ne : text.getLast? ≠ some '\r'
  /-- Only carriage returns stand between the line and its end. -/
  eq_return : ∀ c ∈ returns, c = '\r'
  /-- It ends with the text or in front of a line feed. -/
  after_begins : after = [] ∨ after.head? = some '\n'

/-- The numbers, from 1, of the lines of a text that have a character other than white space. -/
def inkedNumbers (source : List Char) : List Nat :=
  (((Text.pieces '\n' source).zipIdx 1).filter fun piece => !Text.allBlank piece.1).map Prod.snd

/-! ## Pieces -/

/-- A piece of a text with the pieces around it. -/
theorem joined_append_cons (front : List (List Char)) (piece : List Char)
    (back : List (List Char)) :
    ∃ after, Text.joined ['\n'] (front ++ piece :: back) = linesText front ++ piece ++ after ∧
      (after = [] ∨ after.head? = some '\n') := by
  induction front with
  | nil =>
    cases back with
    | nil => exact ⟨[], by simp [Text.joined, linesText], Or.inl rfl⟩
    | cons next back =>
      refine ⟨'\n' :: Text.joined ['\n'] (next :: back), ?_, Or.inr rfl⟩
      simp [Text.joined_cons_cons, linesText]
  | cons first front ih =>
    obtain ⟨after, hjoined, hafter⟩ := ih
    refine ⟨after, ?_, hafter⟩
    rw [List.cons_append, Text.joined_cons_of_ne_nil _ _ (by simp), hjoined, linesText_cons]
    simp

/-- Lines that hold no line feed have one each when they are written. -/
theorem count_linesText {lines : List (List Char)} (h : ∀ line ∈ lines, '\n' ∉ line) :
    (linesText lines).count '\n' = lines.length := by
  induction lines with
  | nil => rfl
  | cons line lines ih =>
    obtain ⟨hline, hlines⟩ := List.forall_mem_cons.1 h
    rw [linesText_cons, List.count_append, List.count_eq_zero.2 hline, List.count_cons_self,
      ih hlines, List.length_cons, Nat.zero_add]

/-- Written lines end with a line feed. -/
theorem linesText_ends (lines : List (List Char)) :
    linesText lines = [] ∨ (linesText lines).getLast? = some '\n' := by
  rcases lines.eq_nil_or_concat with rfl | ⟨front, line, rfl⟩
  · exact Or.inl rfl
  · refine Or.inr ?_
    rw [List.concat_eq_append, linesText_append, linesText_cons]
    simp [linesText]

/-- What is dropped at the end of a piece are carriage returns. -/
theorem exists_returns {piece : List Char} (h : '\n' ∉ piece) :
    ∃ returns, piece = Text.dropEndWhile Line.isTerminator piece ++ returns ∧
      ∀ c ∈ returns, c = '\r' := by
  obtain ⟨returns, hpiece, hreturns⟩ := Text.exists_eq_dropEndWhile_append Line.isTerminator piece
  refine ⟨returns, hpiece, fun c hc => ?_⟩
  have hterminator := hreturns c hc
  rw [Line.isTerminator, Bool.or_eq_true, decide_eq_true_eq, decide_eq_true_eq] at hterminator
  refine hterminator.resolve_left ?_
  rintro rfl
  exact h (hpiece ▸ List.mem_append_right _ hc)

/-- Terminators are white space, so a line is blank without them iff it is blank with them. -/
theorem allBlank_dropEndWhile (piece : List Char) :
    Text.allBlank (Text.dropEndWhile Line.isTerminator piece) = Text.allBlank piece := by
  obtain ⟨tail, hpiece, htail⟩ := Text.exists_eq_dropEndWhile_append Line.isTerminator piece
  have hblank : tail.all Text.isBlank = true :=
    List.all_eq_true.2 fun c hc => isBlank_of_isTerminator (htail c hc)
  conv_rhs => rw [hpiece, Text.allBlank, List.all_append, hblank, Bool.and_true]
  rfl

/-! ## Lines -/

/-- Each numbered line belongs to a piece, and the pieces in front of it settle its place. -/
theorem exists_pieces_of_mem_numbered {number start : Nat} {pieces : List (List Char)}
    {line : Line} (h : line ∈ Line.numbered number start pieces) :
    ∃ front piece back, pieces = front ++ piece :: back ∧
      line = ⟨number + front.length, start + Text.byteLength (linesText front),
        Text.dropEndWhile Line.isTerminator piece⟩ := by
  induction pieces generalizing number start with
  | nil => cases h
  | cons piece pieces ih =>
    rcases List.mem_cons.1 h with rfl | h
    · exact ⟨[], piece, pieces, rfl, rfl⟩
    · obtain ⟨front, found, back, rfl, rfl⟩ := ih h
      have hfeed : '\n'.utf8Size = 1 := by decide
      refine ⟨piece :: front, found, back, rfl, ?_⟩
      rw [linesText_cons, Text.byteLength_append, Text.byteLength_cons, hfeed, List.length_cons]
      congr 1 <;> omega

/-- A line of a text stands where its number and its span say. -/
theorem exists_isPlaced_of_mem_all {source : List Char} {line : Line}
    (h : line ∈ Line.all source) :
    ∃ before returns after,
      IsPlaced source line.number line.span before line.text returns after := by
  obtain ⟨front, piece, back, hpieces, rfl⟩ := exists_pieces_of_mem_numbered h
  have hfeed : ∀ found ∈ front ++ piece :: back, '\n' ∉ found := fun found hfound =>
    Text.not_mem_of_mem_pieces (hpieces ▸ hfound)
  obtain ⟨hfront, hpiece, -⟩ := by simpa only [List.forall_mem_append, List.forall_mem_cons]
    using hfeed
  obtain ⟨after, hjoined, hafter⟩ := joined_append_cons front piece back
  obtain ⟨returns, hreturns, hreturn⟩ := exists_returns hpiece
  refine ⟨linesText front, returns, after, ?_⟩
  exact {
    source_eq := by
      rw [← Text.joined_pieces '\n' source, hpieces, hjoined]
      conv_lhs => rw [hreturns]
      simp only [List.append_assoc]
    start_eq := Nat.zero_add _
    stop_eq := by
      rw [Text.byteLength_append]
      exact congrArg (· + _) (Nat.zero_add _)
    number_eq := by rw [count_linesText hfront, Nat.add_comm]
    before_ends := linesText_ends front
    lineFeed_not_mem := fun hmem => hpiece ((Text.isPrefix_dropEndWhile _ _).subset hmem)
    getLast?_ne := fun hlast => absurd (Text.getLast?_dropEndWhile hlast) (by decide)
    eq_return := hreturn
    after_begins := hafter }

theorem le_of_mem_numbered {number start : Nat} {pieces : List (List Char)} {line : Line}
    (h : line ∈ Line.numbered number start pieces) :
    number ≤ line.number ∧ start ≤ line.start := by
  obtain ⟨front, piece, back, -, rfl⟩ := exists_pieces_of_mem_numbered h
  exact ⟨Nat.le_add_right _ _, Nat.le_add_right _ _⟩

theorem byteLength_dropEndWhile_le (p : Char → Bool) (cs : List Char) :
    Text.byteLength (Text.dropEndWhile p cs) ≤ Text.byteLength cs := by
  obtain ⟨tail, hcs, -⟩ := Text.exists_eq_dropEndWhile_append p cs
  conv_rhs => rw [hcs, Text.byteLength_append]
  exact Nat.le_add_right _ _

/-- Lines lie one behind the other, with a line feed at least between them. -/
theorem pairwise_all (source : List Char) :
    (Line.all source).Pairwise fun earlier later =>
      earlier.number < later.number ∧ earlier.span.stop < later.span.start := by
  have hnumbered : ∀ (pieces : List (List Char)) (number start : Nat),
      (Line.numbered number start pieces).Pairwise fun earlier later =>
        earlier.number < later.number ∧ earlier.span.stop < later.span.start := by
    intro pieces
    induction pieces with
    | nil => exact fun _ _ => List.Pairwise.nil
    | cons piece pieces ih =>
      intro number start
      refine List.pairwise_cons.2 ⟨fun later hlater => ?_, ih _ _⟩
      obtain ⟨hnumber, hstart⟩ := le_of_mem_numbered hlater
      have hle := byteLength_dropEndWhile_le Line.isTerminator piece
      simp only [Line.span]
      omega
  exact hnumbered _ 1 0

/-- Lines that carry something have a character to underline. -/
theorem start_lt_stop_of_mem_written {source : List Char} {line : Line}
    (h : line ∈ Line.written source) : line.span.start < line.span.stop := by
  obtain ⟨-, hblank⟩ := List.mem_filter.1 h
  have hne : line.text ≠ [] := by
    intro hnil
    simp [Line.isBlank, hnil, Text.allBlank] at hblank
  have hlength := Text.length_le_byteLength line.text
  have hpos := List.length_pos_of_ne_nil hne
  simp only [Line.span]
  omega

/-- The lines that carry something have the numbers of those that are not white space alone. -/
theorem map_number_written (source : List Char) :
    (Line.written source).map Line.number = inkedNumbers source := by
  have hnumbered : ∀ (pieces : List (List Char)) (number start : Nat),
      (carrying number start pieces).map Line.number =
        ((pieces.zipIdx number).filter fun piece => !Text.allBlank piece.1).map Prod.snd := by
    intro pieces
    induction pieces with
    | nil => exact fun _ _ => rfl
    | cons piece pieces ih =>
      intro number start
      rw [carrying, Line.numbered, List.zipIdx_cons]
      -- Both lists keep the piece or both leave it out.
      cases hblank : Text.allBlank piece with
      | true =>
        rw [List.filter_cons_of_neg (by simp [Line.isBlank, allBlank_dropEndWhile, hblank]),
          List.filter_cons_of_neg (by simp [hblank]), ← carrying, ih]
      | false =>
        rw [List.filter_cons_of_pos (by simp [Line.isBlank, allBlank_dropEndWhile, hblank]),
          List.filter_cons_of_pos (by simp [hblank]), ← carrying, List.map_cons, ih,
          List.map_cons]
  exact hnumbered _ 1 0

/-! ## Entries -/

/-- The places of entries are those of the lines that carry something. -/
theorem map_place_entries {source : String} {report : Report} (h : parse source = .ok report) :
    report.entries.map (fun entry => (entry.line, entry.span)) =
      (Line.written source.toList).map fun line => (line.number, line.span) := by
  refine (map_eq_map_of_forall₂ (forall₂_entries_of_parse h) fun line entry hread => ?_).symm
  rw [hread.2.1, hread.2.2]

theorem exists_line_of_mem_entries {source : String} {report : Report}
    (h : parse source = .ok report) {entry : Located Record} (hentry : entry ∈ report.entries) :
    ∃ line ∈ Line.written source.toList, entry.span = line.span ∧ entry.line = line.number := by
  obtain ⟨line, hline, hread⟩ := exists_mem_of_forall₂ (forall₂_entries_of_parse h) hentry
  exact ⟨line, hline, hread.2⟩

/-- The entries of a report lie one behind the other. -/
theorem pairwise_entries {source : String} {report : Report} (h : parse source = .ok report) :
    report.entries.Pairwise fun earlier later =>
      earlier.line < later.line ∧ earlier.span.stop < later.span.start := by
  have hlines : ((Line.written source.toList).map fun line =>
      (line.number, line.span)).Pairwise fun earlier later =>
        earlier.1 < later.1 ∧ earlier.2.stop < later.2.start := by
    rw [List.pairwise_map]
    exact (pairwise_all source.toList).filter _
  rw [← map_place_entries h, List.pairwise_map] at hlines
  exact hlines

/-- The span of an entry is not empty and does not leave the text. -/
theorem span_bounds_of_mem_entries {source : String} {report : Report}
    (h : parse source = .ok report) {entry : Located Record} (hentry : entry ∈ report.entries) :
    entry.span.start < entry.span.stop ∧ entry.span.stop ≤ source.utf8ByteSize := by
  obtain ⟨line, hline, hspan, -⟩ := exists_line_of_mem_entries h hentry
  obtain ⟨before, returns, after, hplaced⟩ :=
    exists_isPlaced_of_mem_all (List.mem_of_mem_filter hline)
  rw [hspan]
  refine ⟨start_lt_stop_of_mem_written hline, ?_⟩
  rw [hplaced.stop_eq, ← Text.byteLength_toList, hplaced.source_eq, List.append_assoc,
    Text.byteLength_append _ (returns ++ after)]
  exact Nat.le_add_right _ _

/-- The places of the records of a report, family by family: the lines are those that are not white
space alone, each span is that of its line, and the spans lie one behind the other. -/
theorem places_of_parse {source : String} {report : Report} (h : parse source = .ok report) :
    (report.entries.map Located.line = inkedNumbers source.toList ∧
      (report.entries.map Located.line).Pairwise (· < ·)) ∧
    (∀ entry ∈ report.entries,
      entry.span.start < entry.span.stop ∧ entry.span.stop ≤ source.utf8ByteSize ∧
        ∃ before text returns after,
          IsPlaced source.toList entry.line entry.span before text returns after) ∧
    report.entries.Pairwise fun earlier later => earlier.span.stop < later.span.start := by
  have hpairwise := pairwise_entries h
  refine ⟨⟨?_, ?_⟩, fun entry hentry => ?_, hpairwise.imp And.right⟩
  · have hplaces := congrArg (List.map Prod.fst) (map_place_entries h)
    rw [List.map_map, List.map_map] at hplaces
    exact hplaces.trans (map_number_written source.toList)
  · rw [List.pairwise_map]
    exact hpairwise.imp And.left
  · obtain ⟨hstart, hstop⟩ := span_bounds_of_mem_entries h hentry
    obtain ⟨line, hline, hspan, hnumber⟩ := exists_line_of_mem_entries h hentry
    obtain ⟨before, returns, after, hplaced⟩ :=
      exists_isPlaced_of_mem_all (List.mem_of_mem_filter hline)
    refine ⟨hstart, hstop, before, line.text, returns, after, ?_⟩
    rw [hspan, hnumber]
    exact hplaced

/-- Blank lines, carriage returns in number, a letter of two bytes, and no line feed at the end. -/
def scattered : String :=
  "\r\nBLOCKINFO --- grün - lit:bool \r\r\n\u3000\nENUMINFO --- E - x\r\n\nENTITYINFO --- cow\r"

/-- Three of seven lines carry something. -/
theorem places_of_parse_scattered :
    ∃ report, parse scattered = .ok report ∧ report.entries.map Located.line = [2, 4, 6] ∧
      report.entries.map Located.span = [⟨2, 33⟩, ⟨40, 58⟩, ⟨61, 79⟩] ∧
      ∀ entry ∈ report.entries, ∃ before text returns after,
        IsPlaced scattered.toList entry.line entry.span before text returns after := by
  let report : Report :=
    ⟨[⟨⟨"grün", [("lit", .bool)]⟩, ⟨2, 33⟩, 2⟩], [⟨⟨"E", ["x"]⟩, ⟨40, 58⟩, 4⟩],
      [⟨⟨"cow", none⟩, ⟨61, 79⟩, 6⟩], []⟩
  have hparse : parse scattered = .ok report := by decide +kernel
  have hnumbers : inkedNumbers scattered.toList = [2, 4, 6] := by decide +kernel
  obtain ⟨⟨hlines, -⟩, hplaced, -⟩ := places_of_parse hparse
  exact ⟨report, hparse, hlines.trans hnumbers, rfl, fun entry hentry => (hplaced entry hentry).2.2⟩

end RegistrySchema.Report
