import RegistrySchema.Diagnostic.Basic
import RegistrySchema.Text.Bytes
import RegistrySchema.Text.Columns
import RegistrySchema.Text.Split

/-!
# Excerpts

The line of a source that a span points to, with the columns to underline. A span is clamped to
the source first and widened to one byte where there is room for it; a position behind the
last line points behind that line's last character.
-/

namespace RegistrySchema

/-- The part of a span that lies in a text of `limit` bytes; an empty part is widened to the right
by one byte, if there is one. -/
def Span.clamp (span : Span) (limit : Nat) : Span :=
  let stop := min span.stop limit
  let start := min span.start stop
  if start = stop then ⟨start, min (start + 1) limit⟩ else ⟨start, stop⟩

/-- A line of a source. -/
structure SourceLine where
  /-- Its number, from 1. -/
  number : Nat
  /-- The byte offset of its first character. -/
  start : Nat
  /-- The byte offset behind its terminator. -/
  stop : Nat
  /-- Its characters, without the terminator. -/
  text : List Char
  deriving DecidableEq, Inhabited, Repr

namespace SourceLine

/-- The pieces between line feeds as lines, the first with a given number and offset. What
follows the last line feed is a line only if it is not empty. -/
def numbered (number start : Nat) : List (List Char) → List SourceLine
  | [] => []
  | [piece] =>
    if piece.isEmpty && number != 1 then []
    else [⟨number, start, start + Text.byteLength piece, piece⟩]
  | piece :: others =>
    let stop := start + Text.byteLength piece + 1
    ⟨number, start, stop, (Text.dropTail? ['\r'] piece).getD piece⟩
      :: numbered (number + 1) stop others

/-- The lines of a source; an empty source has one. -/
def all (source : List Char) : List SourceLine := numbered 1 0 (Text.pieces '\n' source)

/-- The line with a byte offset, or the last line for offsets behind it. -/
def at? (lines : List SourceLine) (offset : Nat) : Option SourceLine :=
  (lines.find? fun line => offset < line.stop).or lines.getLast?

/-- The characters of a line before a byte offset. -/
def before (line : SourceLine) (offset : Nat) : List Char :=
  go line.start line.text
where
  /-- The characters before the offset, the first of them at `position`. -/
  go (position : Nat) : List Char → List Char
    | [] => []
    | c :: cs => if position < offset then c :: go (position + c.utf8Size) cs else []

end SourceLine

/-- A source line with a part to underline. -/
structure Excerpt where
  /-- The line's number. -/
  number : Nat
  /-- The line's characters. -/
  text : List Char
  /-- Number of characters before the part, one more for a part behind the line's text. -/
  column : Nat
  /-- Display columns before the part. -/
  left : Nat
  /-- Display columns of the part, at least one. -/
  width : Nat
  deriving DecidableEq, Inhabited, Repr

/-- The excerpt that a span points to in a source with the given lines. -/
def Excerpt.of? (lines : List SourceLine) (span : Span) : Option Excerpt :=
  (SourceLine.at? lines span.start).map fun line =>
    let lead := line.before span.start
    let left := Text.columnCount lead
    { number := line.number
      text := line.text
      column :=
        lead.length + if Text.byteLength line.text < span.start - line.start then 1 else 0
      left
      width := max 1 (Text.columnCount (line.before span.stop) - left) }

/-- A clamped span does not pass the end. -/
theorem Span.clamp_stop_le (span : Span) (limit : Nat) : (span.clamp limit).stop ≤ limit := by
  unfold Span.clamp
  dsimp only
  split <;> dsimp only <;> omega

/-- A span within the text that is not empty is left as it is. -/
theorem Span.clamp_eq_self {span : Span} {limit : Nat} (h : span.start < span.stop)
    (hle : span.stop ≤ limit) : span.clamp limit = span := by
  have hstop : min span.stop limit = span.stop := Nat.min_eq_left hle
  have hstart : min span.start span.stop = span.start := Nat.min_eq_left (Nat.le_of_lt h)
  unfold Span.clamp
  simp only [hstop, hstart]
  rw [if_neg (Nat.ne_of_lt h)]

end RegistrySchema
