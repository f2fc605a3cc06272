import RegistrySchema.Diagnostic.Basic
import RegistrySchema.Text.Blank
import RegistrySchema.Text.Bytes
import RegistrySchema.Text.Split

/-!
# Lines of a report

A text is cut at its line feeds. What is left of a line without the carriage returns and line
feeds at its end keeps its number and its byte offset; lines of white space alone carry nothing
and are left out.
-/

namespace RegistrySchema.Report

/-- A line of a text. -/
structure Line where
  /-- Its number, from 1. -/
  number : Nat
  /-- The byte offset of its first character. -/
  start : Nat
  /-- Its characters, without the terminator. -/
  text : List Char
  deriving DecidableEq, Inhabited, Repr

namespace Line

/-- Whether a character can be part of a terminator. -/
def isTerminator (c : Char) : Bool := c = '\n' || c = '\r'

/-- The pieces between line feeds as lines, the first with a given number and offset. -/
def numbered (number start : Nat) : List (List Char) → List Line
  | [] => []
  | piece :: others =>
    ⟨number, start, Text.dropEndWhile isTerminator piece⟩
      :: numbered (number + 1) (start + Text.byteLength piece + 1) others

/-- All lines of a text. -/
def all (source : List Char) : List Line := numbered 1 0 (Text.pieces '\n' source)

/-- Whether a line has no character but white space. -/
def isBlank (line : Line) : Bool := Text.allBlank line.text

/-- The lines that carry something. -/
def written (source : List Char) : List Line := (all source).filter fun line => !line.isBlank

/-- The bytes of a line. -/
def span (line : Line) : Span := ⟨line.start, line.start + Text.byteLength line.text⟩

end Line

end RegistrySchema.Report
