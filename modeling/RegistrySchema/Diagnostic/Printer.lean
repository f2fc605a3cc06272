import RegistrySchema.Diagnostic.Excerpt
import RegistrySchema.Text.Visible

/-!
# Printing diagnostics under their source

A diagnostic with a span is printed with the line that it points to and a row of carets under
the offending part, in plain text or with terminal colors. A diagnostic without a span, and any
diagnostic printed without a source, has its plain form.
-/

namespace RegistrySchema

/-- How a piece of text is set. -/
inductive Paint where
  /-- As it is. -/
  | plain
  /-- Bold. -/
  | bold
  /-- Bold, in one of the terminal's colors. -/
  | strong (color : Nat)
  deriving DecidableEq, Inhabited, Repr

/-- A piece of text and how it is set. -/
structure Piece where
  text : String
  paint : Paint := .plain
  deriving DecidableEq, Inhabited, Repr

namespace Piece

/-- The control sequence with a number. -/
def control (number : Nat) : String := "\x1b[" ++ toString number ++ "m"

/-- The piece with control sequences, or without; there are none around nothing. -/
def render (colored : Bool) (piece : Piece) : String :=
  if colored && !piece.text.isEmpty then
    match piece.paint with
    | .plain => piece.text
    | .bold => control 1 ++ piece.text ++ control 0
    | .strong color => control 1 ++ control color ++ piece.text ++ control 0
  else piece.text

/-- The color of line numbers and rulings. -/
def blue : Paint := .strong 94

/-- The color of a severity. -/
def ofSeverity : Severity → Paint
  | .error => .strong 91
  | .warning => .strong 33

/-- A piece of rulings. -/
def ruling (text : String) : Piece := ⟨text, blue⟩

/-- A text that has no color. -/
def bare (text : String) : Piece := ⟨text, .plain⟩

/-- Blanks. -/
def blanks (count : Nat) : Piece := bare (String.ofList (List.replicate count ' '))

end Piece

namespace Excerpt

/-- Columns that a printed line can have beside line numbers of `digits` digits. -/
def room (digits : Nat) : Nat := 140 - (3 + digits)

/-- The part of a row that is left out, as first and last column, if an underlined part of `width`
columns from `left` on is more than twice as wide as the room. -/
def cut? (digits left width : Nat) : Option (Nat × Nat) :=
  let pad := room digits / 3
  if width > 2 * room digits then some (left + pad, left + width - pad) else none

/-- A row with the part of `cut` replaced by an ellipsis, if the row has so many characters. -/
def elided (cut : Option (Nat × Nat)) (paint : Paint) (row : List Char) : List Piece :=
  match cut with
  | none => [⟨String.ofList row, paint⟩]
  | some (first, last) =>
    if last ≤ row.length then
      [⟨String.ofList (row.take first), paint⟩, Piece.ruling "...",
        ⟨String.ofList (row.drop last), paint⟩]
    else [⟨String.ofList row, paint⟩]

/-- The printed form of an excerpt under a message: an arrow line if the source has a path, and
the line with its carets. -/
def rows (excerpt : Excerpt) (path : Option String) (paint : Paint) (message : String) :
    List (List Piece) :=
  let number := toString excerpt.number
  let digits := number.length
  let cut := cut? digits excerpt.left excerpt.width
  let bar := [Piece.blanks (digits + 1), Piece.ruling "|"]
  let arrow :=
    match path with
    | none => []
    | some path =>
      [[Piece.blanks digits, Piece.ruling "--> ",
        Piece.bare (path ++ ":" ++ number ++ ":" ++ toString (excerpt.column + 1))]]
  let row := Text.visible excerpt.text
  let line :=
    if row.isEmpty then [] else Piece.bare " " :: elided cut .plain row
  let carets :=
    match cut with
    | none => elided none paint (List.replicate excerpt.width '^')
    | some (first, last) =>
      elided (some (first - excerpt.left, last - excerpt.left)) paint
        (List.replicate excerpt.width '^')
  arrow ++
    [bar,
      [Piece.ruling number, Piece.bare " ", Piece.ruling "|"] ++ line,
      bar ++ [Piece.blanks (1 + excerpt.left)] ++ carets ++ [Piece.bare " ", ⟨message, paint⟩]]

end Excerpt

/-- How diagnostics are printed. -/
structure Printer where
  /-- The text that the spans are about. -/
  source : Option String := none
  /-- Where that text is from. -/
  path : Option String := none
  /-- Whether to use terminal colors. -/
  colored : Bool := false

namespace Printer

/-- The range that is underlined for a span. -/
def underlined (source : String) (span : Span) : Span := span.clamp source.utf8ByteSize

/-- The lines of the source. -/
def lines (printer : Printer) : List SourceLine :=
  match printer.source with
  | none => []
  | some source => SourceLine.all source.toList

/-- The severity and the message; further lines of the message stand below its first. -/
def title (severity : Severity) (message : String) : List (List Piece) :=
  let line (lead : String) (piece : List Char) : Piece :=
    ⟨lead ++ String.ofList (Text.visible piece), .bold⟩
  match Text.pieces '\n' message.toList with
  | [] => []
  | first :: others =>
    [⟨severity.text, Piece.ofSeverity severity⟩, line ": " first]
      :: others.map fun piece => [Piece.blanks (severity.text.length + 2), line "" piece]

/-- The rows of a diagnostic with the line that a span points to. -/
def rows (printer : Printer) (lines : List SourceLine) (span : Span) (diagnostic : Diagnostic) :
    List (List Piece) :=
  let paint := Piece.ofSeverity diagnostic.severity
  let excerpt :=
    match Excerpt.of? lines span with
    | none => []
    | some excerpt => excerpt.rows printer.path paint diagnostic.message
  let hints := diagnostic.hints.map fun hint => [Piece.bare ("  = hint: " ++ hint)]
  title diagnostic.severity diagnostic.message ++ excerpt ++ hints

/-- The text of a diagnostic, given the lines of the source. -/
def print (printer : Printer) (lines : List SourceLine) (diagnostic : Diagnostic) : String :=
  match printer.source, diagnostic.span with
  | some source, some span =>
    String.join ((printer.rows lines (underlined source span) diagnostic).map fun row =>
      String.join (row.map (Piece.render printer.colored)) ++ "\n")
  | _, _ => diagnostic.plain ++ "\n"

/-- The text of diagnostics, one after the other. -/
def printAll (printer : Printer) (diagnostics : List Diagnostic) : String :=
  String.join (diagnostics.map (printer.print printer.lines))

end Printer

end RegistrySchema
