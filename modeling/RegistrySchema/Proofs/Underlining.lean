import RegistrySchema.Diagnostic.Printer

/-!
# What is underlined

Under a source, a diagnostic is printed with a range of the source in place of its span. Whatever
the span is, the range lies in the source (`Span.clamp_stop_le`). It is empty if the span starts
and stops behind the last byte, and only then (`Span.clamp_start_lt_stop_iff`): such a span is
clamped to the end of the source, and widening it to the right is blocked there. The caret then
stands behind the last line's text although there is something in the source to underline
(`not_underlined_nonempty`).
-/

namespace RegistrySchema

namespace Span

/-- A clamped span does not stop before it starts. -/
theorem clamp_start_le_stop (span : Span) (limit : Nat) :
    (span.clamp limit).start ≤ (span.clamp limit).stop := by
  unfold clamp
  dsimp only
  split <;> dsimp only <;> omega

/-- A clamped span holds a byte exactly if the span starts or stops before the end of the text. -/
theorem clamp_start_lt_stop_iff (span : Span) (limit : Nat) :
    (span.clamp limit).start < (span.clamp limit).stop ↔
      span.start < limit ∨ span.stop < limit := by
  unfold clamp
  dsimp only
  split <;> dsimp only <;> omega

/-- A span behind the text is clamped to its end. -/
theorem clamp_of_le {span : Span} {limit : Nat} (hstart : limit ≤ span.start)
    (hstop : limit ≤ span.stop) : span.clamp limit = ⟨limit, limit⟩ := by
  have hmin : min span.stop limit = limit := Nat.min_eq_right hstop
  simp only [clamp, hmin, Nat.min_eq_right hstart, if_true]
  rw [Nat.min_eq_right (Nat.le_succ limit)]

end Span

namespace Printer

/-- The text of a diagnostic with the range to underline. -/
def framed (printer : Printer) (lines : List SourceLine) (range : Span)
    (diagnostic : Diagnostic) : String :=
  String.join ((printer.rows lines range diagnostic).map fun row =>
    String.join (row.map (Piece.render printer.colored)) ++ "\n")

theorem print_eq_framed {printer : Printer} {source : String} {span : Span}
    {diagnostic : Diagnostic} (hsource : printer.source = some source)
    (hspan : diagnostic.span = some span) (lines : List SourceLine) :
    printer.print lines diagnostic =
      printer.framed lines (underlined source span) diagnostic := by
  rw [print, hsource, hspan]
  rfl

/-- The range that is underlined for a diagnostic, if it is printed under the source. -/
def range? (printer : Printer) (diagnostic : Diagnostic) : Option Span := do
  let source ← printer.source
  let span ← diagnostic.span
  return underlined source span

/-- A diagnostic is printed with its range, or in its plain form if it has none. -/
theorem print_eq_of_range? (printer : Printer) (lines : List SourceLine)
    (diagnostic : Diagnostic) :
    printer.print lines diagnostic =
      match printer.range? diagnostic with
      | none => diagnostic.plain ++ "\n"
      | some range => printer.framed lines range diagnostic := by
  unfold print range?
  cases printer.source with
  | none => rfl
  | some source => cases diagnostic.span <;> rfl

theorem range?_eq_some {printer : Printer} {source : String} {span : Span}
    {diagnostic : Diagnostic} (hsource : printer.source = some source)
    (hspan : diagnostic.span = some span) :
    printer.range? diagnostic = some (span.clamp source.utf8ByteSize) := by
  rw [range?, hsource, hspan]
  rfl

/-- Diagnostics are printed one after the other, each with its range. Under a source there is a
range for every span. It lies in the source; it holds at least one byte exactly if the span starts
or stops before the end of the source, and otherwise it is empty and stands at that end. -/
theorem printAll_ranges (printer : Printer) (diagnostics : List Diagnostic) :
    printer.printAll diagnostics =
        String.join (diagnostics.map fun diagnostic =>
          match printer.range? diagnostic with
          | none => diagnostic.plain ++ "\n"
          | some range => printer.framed printer.lines range diagnostic) ∧
      ∀ source, printer.source = some source → ∀ diagnostic ∈ diagnostics, ∀ span,
        diagnostic.span = some span → ∃ range, printer.range? diagnostic = some range ∧
          range.start ≤ range.stop ∧ range.stop ≤ source.utf8ByteSize ∧
          (range.start < range.stop ↔
            span.start < source.utf8ByteSize ∨ span.stop < source.utf8ByteSize) ∧
          (¬ range.start < range.stop →
            range = ⟨source.utf8ByteSize, source.utf8ByteSize⟩) := by
  refine ⟨?_, fun source hsource diagnostic _ span hspan => ?_⟩
  · rw [printAll]
    congr 1
    exact List.map_congr_left fun diagnostic _ => printer.print_eq_of_range? _ diagnostic
  · have hnonempty := span.clamp_start_lt_stop_iff source.utf8ByteSize
    refine ⟨_, range?_eq_some hsource hspan, span.clamp_start_le_stop _, span.clamp_stop_le _,
      hnonempty, fun hempty => ?_⟩
    rw [hnonempty, not_or, Nat.not_lt, Nat.not_lt] at hempty
    exact Span.clamp_of_le hempty.1 hempty.2

/-- A report of one byte. -/
def brief : Printer := { source := some "a" }

/-- A diagnostic about bytes that are not there. -/
def stray : Diagnostic := (Diagnostic.ofKind .duplicateEnum).withSpan ⟨100, 200⟩

/-- A span that starts in the report and stops where it starts is widened; the stray one is not. -/
theorem printAll_ranges_brief :
    let inside := stray.withSpan ⟨0, 0⟩
    (∃ range, brief.range? inside = some range ∧ range.start < range.stop) ∧
      ∃ range, brief.range? stray = some range ∧ ¬ range.start < range.stop ∧
        range = ⟨1, 1⟩ := by
  intro inside
  obtain ⟨-, hranges⟩ := brief.printAll_ranges [inside, stray]
  obtain ⟨wide, hwide, -, -, hholds, -⟩ := hranges "a" rfl inside (by simp) ⟨0, 0⟩ rfl
  obtain ⟨range, hrange, -, -, hempty, hend⟩ :=
    hranges "a" rfl stray (by simp) ⟨100, 200⟩ rfl
  have hnone : ¬ range.start < range.stop := fun h => absurd (hempty.1 h) (by decide)
  exact ⟨⟨wide, hwide, hholds.2 (by decide)⟩, range, hrange, hnone, hend hnone⟩

/-- Nothing is underlined for the stray diagnostic. Its caret stands behind the only byte of the
report, and not under it as for the only range that holds a byte. -/
theorem not_underlined_nonempty :
    brief.printAll [stray] =
        "error: duplicate enum type\n  |\n1 | a\n  |  ^ duplicate enum type\n" ∧
      brief.framed brief.lines ⟨0, 1⟩ stray =
        "error: duplicate enum type\n  |\n1 | a\n  | ^ duplicate enum type\n" ∧
      ¬ ∀ (printer : Printer) (source : String) (diagnostics : List Diagnostic),
        printer.source = some source → source ≠ "" → ∀ diagnostic ∈ diagnostics,
          ∀ range ∈ printer.range? diagnostic,
            range.start < range.stop ∧ range.stop ≤ source.utf8ByteSize := by
  refine ⟨by decide +kernel, by decide +kernel, fun hall => ?_⟩
  -- The span from 100 to 200 is clamped to 1 and 1, and widening it would leave the report.
  have hrange := hall brief "a" [stray] rfl (by decide) stray (by simp) ⟨1, 1⟩ rfl
  exact absurd hrange.1 (Nat.lt_irrefl 1)

end Printer

end RegistrySchema
