import RegistrySchema.Text.Split

/-!
# Errors in patterns

Why a text is no pattern. Most errors are about a stretch of the text, which is underlined in a
copy of the text; lines of a longer text are numbered.
-/

namespace RegistrySchema.Pattern

/-- A place in a written pattern; lines and columns are counted from 1. -/
structure Position where
  line : Nat
  column : Nat
  deriving DecidableEq, Inhabited, Repr

/-- The start of a text. -/
def Position.first : Position := ⟨1, 1⟩

/-- The place behind a character. -/
def Position.after (position : Position) (c : Char) : Position :=
  if c = '\n' then ⟨position.line + 1, 1⟩ else ⟨position.line, position.column + 1⟩

/-- A stretch of a written pattern. -/
structure Extent where
  start : Position
  stop : Position
  deriving DecidableEq, Inhabited, Repr

/-- The empty stretch at a place. -/
def Extent.at (position : Position) : Extent := ⟨position, position⟩

/-- What is wrong with a stretch. -/
inductive Flaw where
  | classEscape
  | classRangeReversed
  | classRangeBound
  | classUnclosed
  | decimalTooLarge
  | hexEmpty
  | hexNoCharacter
  | hexDigit
  | escapeUnfinished
  | escapeUnknown
  | flagNegationDangling
  | flagRepeated
  | flagNegationRepeated
  | flagMissing
  | flagUnknown
  | nameRepeated
  | nameEmpty
  | nameCharacter
  | nameUnclosed
  | groupUnclosed
  | groupUnopened
  | tooDeep
  | countReversed
  | countMissing
  | countUnclosed
  | operandMissing
  | wordConditionUnclosed
  | wordConditionUnknown
  | wordConditionUnfinished
  | propertyName
  | backReference
  | lookAround
  | beyondBytes
  | brokenEncoding
  | propertyUnknown
  | propertyValueUnknown
  | letterClass
  | letterCase
  deriving DecidableEq, Inhabited, Repr

/-- How deep a pattern may nest. -/
def maxDepth : Nat := 250

/-- The flaw in words. -/
def Flaw.message : Flaw → String
  | classEscape => "invalid escape sequence found in character class"
  | classRangeReversed => "invalid character class range, the start must be <= the end"
  | classRangeBound => "invalid range boundary, must be a literal"
  | classUnclosed => "unclosed character class"
  | decimalTooLarge => "decimal literal invalid"
  | hexEmpty => "hexadecimal literal empty"
  | hexNoCharacter => "hexadecimal literal is not a Unicode scalar value"
  | hexDigit => "invalid hexadecimal digit"
  | escapeUnfinished => "incomplete escape sequence, reached end of pattern prematurely"
  | escapeUnknown => "unrecognized escape sequence"
  | flagNegationDangling => "dangling flag negation operator"
  | flagRepeated => "duplicate flag"
  | flagNegationRepeated => "flag negation operator repeated"
  | flagMissing => "expected flag but got end of regex"
  | flagUnknown => "unrecognized flag"
  | nameRepeated => "duplicate capture group name"
  | nameEmpty => "empty capture group name"
  | nameCharacter => "invalid capture group character"
  | nameUnclosed => "unclosed capture group name"
  | groupUnclosed => "unclosed group"
  | groupUnopened => "unopened group"
  | tooDeep =>
    "exceed the maximum number of nested parentheses/brackets (" ++ toString maxDepth ++ ")"
  | countReversed => "invalid repetition count range, the start must be <= the end"
  | countMissing => "repetition quantifier expects a valid decimal"
  | countUnclosed => "unclosed counted repetition"
  | operandMissing => "repetition operator missing expression"
  | wordConditionUnclosed =>
    "special word boundary assertion is either unclosed or contains an invalid character"
  | wordConditionUnknown =>
    "unrecognized special word boundary assertion, valid choices are: start, end, start-half or "
      ++ "end-half"
  | wordConditionUnfinished =>
    "found either the beginning of a special word boundary or a bounded repetition on a \\b with "
      ++ "an opening brace, but no closing brace"
  | propertyName => "invalid Unicode character class"
  | backReference => "backreferences are not supported"
  | lookAround => "look-around, including look-ahead and look-behind, is not supported"
  | beyondBytes => "Unicode not allowed here"
  | brokenEncoding => "pattern can match invalid UTF-8"
  | propertyUnknown => "Unicode property not found"
  | propertyValueUnknown => "Unicode property value not found"
  | letterClass =>
    "Unicode-aware Perl class not found (make sure the unicode-perl feature is enabled)"
  | letterCase =>
    "Unicode-aware case insensitivity matching is not available (make sure the unicode-case "
      ++ "feature is enabled)"

/-- Why a text is no pattern that can be searched for. -/
inductive Error where
  /-- Something is wrong with a stretch; `former` is an earlier one that it clashes with. -/
  | flaw (flaw : Flaw) (extent : Extent) (former : Option Extent)
  /-- It needs too large a searcher. -/
  | tooLarge (limit : Nat)
  /-- It asks for the words of all languages. -/
  | unsearchable
  deriving DecidableEq, Inhabited, Repr

/-! ## Layout -/

/-- A number of equal characters. -/
def strip (count : Nat) (c : Char) : String := String.ofList (List.replicate count c)

/-- The lines of a text. A line may end in a carriage return and a line feed, and a last line
without characters is none. -/
def textLines (text : String) : List String :=
  let pieces := Text.pieces '\n' text.toList
  let complete := pieces.dropLast.map fun piece => (Text.dropTail? ['\r'] piece).getD piece
  let rest := match pieces.getLast? with
    | some (c :: cs) => [c :: cs]
    | _ => []
  (complete ++ rest).map String.ofList

/-- Whether a stretch lies within a line. -/
def Extent.isInLine (extent : Extent) : Bool := extent.start.line = extent.stop.line

/-- Whether a place comes before another one. -/
def Position.isBefore (a b : Position) : Bool :=
  a.line < b.line || (a.line = b.line && a.column < b.column)

/-- Whether a stretch does not come behind another one: the earlier start decides, and of equal
starts the earlier end. -/
def Extent.isNotBehind (a b : Extent) : Bool :=
  a.start.isBefore b.start || (a.start = b.start && !b.stop.isBefore a.stop)

/-- Carets under the columns of stretches, given the columns written so far. -/
def carets (written : Nat) : List Extent → String
  | [] => ""
  | extent :: others =>
    let blank := extent.start.column - 1 - written
    let size := max 1 (extent.stop.column - extent.start.column)
    strip blank ' ' ++ strip size '^' ++ carets (written + blank + size) others

/-- A line that parts the copy of a longer text from what stands around it. -/
def divider : String := strip 79 '~'

/-- The copy of a text with carets under stretches. -/
def annotated (text : String) (extents : List Extent) : String :=
  let lines := textLines text
  let count := lines.length + if text.toList.getLast? = some '\n' then 1 else 0
  let width := if count ≤ 1 then 0 else (toString count).length
  let margin (number : Nat) : String :=
    if width = 0 then strip 4 ' '
    else strip (width - (toString number).length) ' ' ++ toString number ++ ": "
  let noteMargin := strip (if width = 0 then 4 else width + 2) ' '
  String.join ((List.range lines.length).zipWith (fun index line =>
    let marked := extents.filter fun extent => extent.isInLine && extent.start.line = index + 1
    margin (index + 1) ++ line ++ "\n"
      ++ if marked.isEmpty then "" else noteMargin ++ carets 0 marked ++ "\n") lines)

/-- Where a stretch of several lines is. -/
def Extent.lineNote (extent : Extent) : String :=
  "on line " ++ toString extent.start.line ++ " (column " ++ toString extent.start.column
    ++ ") through line " ++ toString extent.stop.line ++ " (column "
    ++ toString (extent.stop.column - 1) ++ ")"

/-- The wording of an error in a text. -/
def Error.message (text : String) : Error → String
  | flaw cause extent former =>
    let extents := (extent :: former.toList).mergeSort Extent.isNotBehind
    let copy := annotated text extents
    let long := extents.filter fun extent => !extent.isInLine
    let notes := "\n".intercalate (long.map Extent.lineNote)
    "regex parse error:\n"
      ++ (if text.toList.contains '\n' then
          divider ++ "\n" ++ copy ++ divider ++ "\n"
            ++ if long.isEmpty then "" else notes ++ "\n"
        else copy)
      ++ "error: " ++ cause.message
  | tooLarge limit => "Compiled regex exceeds size limit of " ++ toString limit ++ " bytes."
  | unsearchable => "error building NFA"

end RegistrySchema.Pattern
