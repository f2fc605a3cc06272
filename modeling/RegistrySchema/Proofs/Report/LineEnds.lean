import RegistrySchema.Proofs.Report.Grammar
import RegistrySchema.Proofs.Report.Places

/-!
# Line ends and blank lines

What is read from a text depends on its lines only by what they carry. A change of the text that
keeps the lines that carry something, and their characters, keeps what is read, whether that is a
report or an error; the numbers and the offsets of the lines may be others (`parse_eq_relocate`).
Three changes are of this kind: carriage returns in front of all line feeds, another line of white
space, and a line feed at the end (`parse_of_lineEnds`).
-/

namespace RegistrySchema.Report

/-! ## Places that change -/

/-- Where the lines of a text go when the text is changed. -/
structure Relocation where
  /-- The new number of a line. -/
  number : Nat → Nat
  /-- How many bytes there are in front of a line besides those that were there. -/
  shift : Nat → Nat

namespace Relocation

variable (r : Relocation)

/-- A line in its new place. -/
def line (line : Line) : Line := ⟨r.number line.number, line.start + r.shift line.number, line.text⟩

/-- A record in its new place; its span is as long as it was. -/
def located {α : Type} (entry : Located α) : Located α :=
  ⟨entry.record,
    ⟨entry.span.start + r.shift entry.line, entry.span.stop + r.shift entry.line⟩,
    r.number entry.line⟩

/-- A report with its records in their new places. -/
def report (report : Report) : Report :=
  ⟨report.blocks.map r.located, report.enums.map r.located, report.entities.map r.located,
    report.classes.map r.located⟩

/-- What is wrong with a line in its new place. -/
def error (err : ReadError) : ReadError := ⟨r.number err.line, err.fault⟩

/-- What was read, in its new place. -/
def outcome {α : Type} (move : α → α) : Except ReadError α → Except ReadError α
  | .ok found => .ok (move found)
  | .error err => .error (r.error err)

theorem readLines_map (current : Section) (lines : List Line) :
    readLines current (lines.map r.line) =
      r.outcome (List.map r.located) (readLines current lines) := by
  induction lines generalizing current with
  | nil => rfl
  | cons line lines ih =>
    rw [List.map_cons]
    -- A line is read by its characters alone.
    cases hline : readLine current line.text with
    | error fault =>
      have hmoved : readLine current (r.line line).text = .error fault := hline
      rw [readLines_cons_of_error hline, readLines_cons_of_error hmoved]
      rfl
    | ok record =>
      have hmoved : readLine current (r.line line).text = .ok record := hline
      rw [readLines_cons_of_ok hline, readLines_cons_of_ok hmoved, ih]
      cases readLines record.family lines with
      | error err => rfl
      | ok entries =>
        simp [outcome, Except.map, located, Relocation.line, Line.span, Nat.add_right_comm]

/-- Lines that carry something do so in their new places. -/
theorem filter_map_line (lines : List Line) :
    (lines.map r.line).filter (fun line => !line.isBlank) =
      (lines.filter fun line => !line.isBlank).map r.line :=
  List.filter_map

theorem ofEntries_map (entries : List (Located Record)) :
    ofEntries (entries.map r.located) = r.report (ofEntries entries) := by
  induction entries with
  | nil => rfl
  | cons entry entries ih =>
    have hcons : ∀ (entry : Located Record) (entries : List (Located Record)),
        ofEntries (entry :: entries) = cons entry (ofEntries entries) := fun _ _ => rfl
    rw [List.map_cons, hcons, hcons, ih]
    obtain ⟨record, span, number⟩ := entry
    cases record <;> rfl

end Relocation

/-- Texts with the same lines in other places are read alike. -/
theorem parse_eq_relocate {source changed : String} {r : Relocation}
    (h : Line.written changed.toList = (Line.written source.toList).map r.line) :
    parse changed = r.outcome r.report (parse source) := by
  rw [parse, parse, h, r.readLines_map]
  cases readLines .blocks (Line.written source.toList) with
  | error err => rfl
  | ok entries => exact congrArg Except.ok (r.ofEntries_map entries)

/-! ## Carriage returns -/

/-- A carriage return in front of every line feed. -/
def withReturns (source : List Char) : List Char :=
  source.flatMap fun c => if c = '\n' then ['\r', '\n'] else [c]

/-- Nothing moves to another line, and a line has a further byte in front of it for each line
before. -/
def returned : Relocation := ⟨id, fun number => number - 1⟩

/-- All pieces but the last one end in a further carriage return. -/
def returnPieces : List (List Char) → List (List Char)
  | [] => []
  | [piece] => [piece]
  | piece :: pieces => (piece ++ ['\r']) :: returnPieces pieces

theorem returnPieces_cons_of_ne_nil (piece : List Char) {pieces : List (List Char)}
    (h : pieces ≠ []) :
    returnPieces (piece :: pieces) = (piece ++ ['\r']) :: returnPieces pieces := by
  obtain ⟨next, pieces, rfl⟩ := List.exists_cons_of_ne_nil h
  rfl

theorem pieces_withReturns (source : List Char) :
    Text.pieces '\n' (withReturns source) = returnPieces (Text.pieces '\n' source) := by
  induction source with
  | nil => rfl
  | cons c source ih =>
    rw [withReturns, List.flatMap_cons, ← withReturns]
    by_cases hc : c = '\n'
    · have hcut := Text.pieces_append_cons (show '\n' ∉ ['\r'] by decide) (withReturns source)
      rw [if_pos hc, hc, Text.pieces, if_pos rfl, List.cons_append, List.cons_append,
        List.nil_append, returnPieces_cons_of_ne_nil _ (Text.pieces_ne_nil '\n' source), ← ih]
      exact hcut
    · rw [if_neg hc, List.singleton_append, Text.pieces_cons_of_ne hc, ih,
        Text.pieces_cons_of_ne hc]
      -- The first character goes to the first piece, which keeps its end.
      obtain ⟨first, others, hpieces⟩ :=
        List.exists_cons_of_ne_nil (Text.pieces_ne_nil '\n' source)
      rw [hpieces]
      cases others <;> rfl

/-- A carriage return at the end of a piece is dropped with the others. -/
theorem dropEndWhile_append_return (piece : List Char) :
    Text.dropEndWhile Line.isTerminator (piece ++ ['\r']) =
      Text.dropEndWhile Line.isTerminator piece := by
  rw [Text.dropEndWhile_eq_rdropWhile, Text.dropEndWhile_eq_rdropWhile]
  exact List.rdropWhile_concat_pos _ _ _ (by decide)

theorem numbered_returnPieces {number : Nat} (h : 1 ≤ number) (start : Nat)
    (pieces : List (List Char)) :
    Line.numbered number (start + (number - 1)) (returnPieces pieces) =
      (Line.numbered number start pieces).map returned.line := by
  induction pieces generalizing number start with
  | nil => rfl
  | cons piece pieces ih =>
    by_cases hpieces : pieces = []
    · rw [hpieces]
      rfl
    · have hreturn : '\r'.utf8Size = 1 := by decide
      have hstart : start + (number - 1) + (Text.byteLength piece + 1) + 1 =
          start + Text.byteLength piece + 1 + (number + 1 - 1) := by
        omega
      rw [returnPieces_cons_of_ne_nil piece hpieces, Line.numbered, Line.numbered, List.map_cons,
        dropEndWhile_append_return, Text.byteLength_append, Text.byteLength_cons, hreturn]
      refine congrArg₂ List.cons rfl ?_
      rw [← ih (Nat.le_add_left 1 number), ← hstart]
      rfl

theorem written_withReturns (source : List Char) :
    Line.written (withReturns source) = (Line.written source).map returned.line := by
  have hall : Line.all (withReturns source) = (Line.all source).map returned.line := by
    rw [Line.all, pieces_withReturns]
    exact numbered_returnPieces (le_refl 1) 0 _
  rw [Line.written, hall]
  exact returned.filter_map_line _

/-! ## White space between lines -/

/-- The lines behind the first `count` ones go behind a further line. -/
def inserted (count : Nat) (text : String) : Relocation where
  number number := if number ≤ count then number else number + 1
  shift number := if number ≤ count then 0 else text.utf8ByteSize

theorem map_inserted_numbered_of_le {number start count : Nat} {text : String}
    {pieces : List (List Char)} (h : number + pieces.length ≤ count + 1) :
    (Line.numbered number start pieces).map (inserted count text).line =
      Line.numbered number start pieces := by
  induction pieces generalizing number start with
  | nil => rfl
  | cons piece pieces ih =>
    rw [List.length_cons] at h
    have hle : number ≤ count := by omega
    rw [Line.numbered, List.map_cons, ih (by omega)]
    simp [Relocation.line, inserted, hle]

theorem map_inserted_numbered_of_lt {number start count : Nat} {text : String}
    {pieces : List (List Char)} (h : count < number) :
    (Line.numbered number start pieces).map (inserted count text).line =
      Line.numbered (number + 1) (start + text.utf8ByteSize) pieces := by
  induction pieces generalizing number start with
  | nil => rfl
  | cons piece pieces ih =>
    have hlt : ¬ number ≤ count := by omega
    have hstart : start + Text.byteLength piece + 1 + text.utf8ByteSize =
        start + text.utf8ByteSize + Text.byteLength piece + 1 := by
      omega
    rw [Line.numbered, Line.numbered, List.map_cons, ih (Nat.lt_succ_of_lt h), hstart]
    simp [Relocation.line, inserted, hlt]

/-- Lines with a line feed behind each are the lines joined, with another line feed. -/
theorem linesText_eq_joined {lines : List (List Char)} (h : lines ≠ []) :
    linesText lines = Text.joined ['\n'] lines ++ ['\n'] := by
  induction lines with
  | nil => exact absurd rfl h
  | cons line lines ih =>
    by_cases hlines : lines = []
    · simp [hlines, linesText, Text.joined]
    · rw [linesText_cons, ih hlines, Text.joined_cons_of_ne_nil _ _ hlines]
      simp

/-- Another piece begins with the text and behind each line feed. -/
theorem exists_pieces_append {head : List Char} (h : head = [] ∨ head.getLast? = some '\n') :
    ∃ front : List (List Char), front.length = head.count '\n' ∧ linesText front = head ∧
      ∀ tail, Text.pieces '\n' (head ++ tail) = front ++ Text.pieces '\n' tail := by
  rcases h with rfl | hlast
  · exact ⟨[], rfl, rfl, fun tail => rfl⟩
  · obtain ⟨lines, rfl⟩ := List.getLast?_eq_some_iff.1 hlast
    refine ⟨Text.pieces '\n' lines, ?_, ?_, fun tail => ?_⟩
    · rw [Text.length_pieces, List.count_append, List.count_singleton_self]
    · rw [linesText_eq_joined (Text.pieces_ne_nil '\n' lines), Text.joined_pieces]
    · rw [List.append_assoc, List.singleton_append, Text.pieces_append_sep]

/-- A line of white space only counts. -/
theorem carrying_blank_cons {blank : List Char} (h : Text.allBlank blank = true)
    (number start : Nat) (pieces : List (List Char)) :
    carrying number start (blank :: pieces) =
      carrying (number + 1) (start + Text.byteLength blank + 1) pieces := by
  rw [carrying, Line.numbered,
    List.filter_cons_of_neg (by simp [Line.isBlank, allBlank_dropEndWhile, h]), carrying]

theorem written_insert {head blank tail : String}
    (hhead : head = "" ∨ head.toList.getLast? = some '\n')
    (hblank : Text.allBlank blank.toList = true) (hline : '\n' ∉ blank.toList) :
    Line.written (head ++ (blank ++ "\n") ++ tail).toList =
      (Line.written (head ++ tail).toList).map
        (inserted (head.toList.count '\n') (blank ++ "\n")).line := by
  obtain ⟨front, hlength, hlines, hpieces⟩ :=
    exists_pieces_append (hhead.imp_left fun hempty => by rw [hempty]; rfl)
  have hsource : (head ++ (blank ++ "\n") ++ tail).toList =
      head.toList ++ (blank.toList ++ '\n' :: tail.toList) := by
    simp
  have hwidth : Text.byteLength blank.toList + 1 = (blank ++ "\n").utf8ByteSize := by
    rw [Text.byteLength_toList, String.utf8ByteSize_append]
    rfl
  have hcarrying : ∀ pieces, (Line.numbered 1 0 pieces).filter (fun line => !line.isBlank) =
      carrying 1 0 pieces := fun _ => rfl
  rw [Line.written, Line.written, Line.all, Line.all, hsource, String.toList_append, hpieces,
    hpieces, Text.pieces_append_cons hline, ← Relocation.filter_map_line, hcarrying,
    carrying_append, carrying_blank_cons hblank, Nat.add_assoc _ (Text.byteLength blank.toList),
    hwidth, numbered_append, List.map_append,
    map_inserted_numbered_of_le (by omega), map_inserted_numbered_of_lt (by omega),
    List.filter_append]
  rfl

/-! ## The end of a text -/

/-- Behind a last line feed there is another line, but it is empty. -/
theorem written_concat_lineFeed (source : List Char) :
    Line.written (source ++ ['\n']) = Line.written source := by
  have hend : Text.pieces '\n' (source ++ ['\n']) = Text.pieces '\n' source ++ [[]] :=
    Text.pieces_append_sep '\n' source []
  rw [Line.written, Line.all, hend, ← carrying, carrying_append, carrying_nil_cons]
  exact List.append_nil _

/-! ## Reading -/

/-- Line ends and blank lines only move what is read: carriage returns in front of the line feeds
move the offsets, a further line of white space moves what is behind it, and a further line feed at
the end moves nothing. -/
theorem parse_of_lineEnds (source : String) :
    parse (String.ofList (withReturns source.toList)) =
        returned.outcome returned.report (parse source) ∧
      (∀ head blank tail : String, source = head ++ tail →
        head = "" ∨ head.toList.getLast? = some '\n' →
        Text.allBlank blank.toList = true → '\n' ∉ blank.toList →
          parse (head ++ (blank ++ "\n") ++ tail) =
            (inserted (head.toList.count '\n') (blank ++ "\n")).outcome
              (inserted (head.toList.count '\n') (blank ++ "\n")).report (parse source)) ∧
      parse (source ++ "\n") = parse source := by
  refine ⟨?_, ?_, ?_⟩
  · refine parse_eq_relocate ?_
    rw [String.toList_ofList]
    exact written_withReturns source.toList
  · rintro head blank tail rfl hhead hblank hline
    exact parse_eq_relocate (written_insert hhead hblank hline)
  · have hsource : (source ++ "\n").toList = source.toList ++ ['\n'] := String.toList_append
    rw [parse, hsource, written_concat_lineFeed, parse]

/-- A line with a letter of two bytes, and a carriage return besides its line feed. -/
def torn : String := "BLOCKINFO --- grün - \r\n"

/-- White space of one line: a wide space, a tab and a carriage return. -/
def strayBlank : String := "\u3000\t\r"

/-- Stray white space moves a record behind it by a line and six bytes, and an error by a line. -/
theorem parse_of_lineEnds_torn :
    (torn.toList.getLast? = some '\n' ∧ Text.allBlank strayBlank.toList = true ∧
      '\n' ∉ strayBlank.toList) ∧
    parse (torn ++ "ENTITYINFO --- cow") =
      .ok ⟨[⟨⟨"grün", []⟩, ⟨0, 22⟩, 1⟩], [], [⟨⟨"cow", none⟩, ⟨24, 42⟩, 2⟩], []⟩ ∧
    parse (torn ++ (strayBlank ++ "\n") ++ "ENTITYINFO --- cow") =
      .ok ⟨[⟨⟨"grün", []⟩, ⟨0, 22⟩, 1⟩], [], [⟨⟨"cow", none⟩, ⟨30, 48⟩, 3⟩], []⟩ ∧
    parse (torn ++ "cow") = .error ⟨2, .noSeparator⟩ ∧
    parse (torn ++ (strayBlank ++ "\n") ++ "cow") = .error ⟨3, .noSeparator⟩ := by
  have hends : torn.toList.getLast? = some '\n' := by decide +kernel
  have hblank : Text.allBlank strayBlank.toList = true := by decide +kernel
  have hline : '\n' ∉ strayBlank.toList := by decide +kernel
  have hread : parse (torn ++ "ENTITYINFO --- cow") =
      .ok ⟨[⟨⟨"grün", []⟩, ⟨0, 22⟩, 1⟩], [], [⟨⟨"cow", none⟩, ⟨24, 42⟩, 2⟩], []⟩ := by
    decide +kernel
  have herror : parse (torn ++ "cow") = .error ⟨2, .noSeparator⟩ := by decide +kernel
  have hmove := fun tail => (parse_of_lineEnds (torn ++ tail)).2.1 torn strayBlank tail rfl
    (Or.inr hends) hblank hline
  refine ⟨⟨hends, hblank, hline⟩, hread, ?_, herror, ?_⟩
  · rw [hmove, hread]
    decide +kernel
  · rw [hmove, herror]
    decide +kernel

end RegistrySchema.Report
