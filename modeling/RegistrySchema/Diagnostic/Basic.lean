import RegistrySchema.Diagnostic.Kind

/-!
# Diagnostics

A diagnostic has a kind, a message, hints, and the byte span of the offending text if it is
about a text. Diagnostics are collected in lists and printed by the caller; the plain form is
one line each.
-/

namespace RegistrySchema

/-- A range of bytes of a text, from `start` up to but not including `stop`. -/
structure Span where
  start : Nat
  stop : Nat
  deriving DecidableEq, Inhabited, Repr

/-- One finding. -/
structure Diagnostic where
  /-- What it is about. -/
  kind : DiagnosticKind
  /-- Where it is. -/
  span : Option Span
  /-- What is wrong. -/
  message : String
  /-- Advice. -/
  hints : List String
  deriving DecidableEq, Inhabited, Repr

namespace Diagnostic

/-- The diagnostic of a kind with that kind's message and hint. -/
def ofKind (kind : DiagnosticKind) : Diagnostic :=
  { kind, span := none, message := kind.fallback, hints := kind.hint?.toList }

/-- Word the message about a detail. -/
def about (diagnostic : Diagnostic) (detail : String) : Diagnostic :=
  { diagnostic with message := diagnostic.kind.messageAbout detail }

/-- A diagnostic that is worded about a detail has the detail within the words of its kind. -/
theorem about_ofKind (kind : DiagnosticKind) (detail : String) :
    (ofKind kind).about detail =
      { kind, span := none, message := kind.frame.1 ++ detail ++ kind.frame.2,
        hints := kind.hint?.toList } := rfl

/-- Say where it is. -/
def withSpan (diagnostic : Diagnostic) (span : Span) : Diagnostic :=
  { diagnostic with span := some span }

/-- Add a hint behind those there are. -/
def withHint (diagnostic : Diagnostic) (hint : String) : Diagnostic :=
  { diagnostic with hints := diagnostic.hints ++ [hint] }

/-- The kind's severity. -/
def severity (diagnostic : Diagnostic) : Severity := diagnostic.kind.severity

/-- Whether it is an error. -/
def isError (diagnostic : Diagnostic) : Bool := diagnostic.severity = .error

/-- Whether it is a warning. -/
def isWarning (diagnostic : Diagnostic) : Bool := diagnostic.severity = .warning

/-- The plain form: severity, span, message and hints on one line. -/
def plain (diagnostic : Diagnostic) : String :=
  let place :=
    match diagnostic.span with
    | none => ""
    | some span => " at " ++ toString span.start ++ ".." ++ toString span.stop
  diagnostic.severity.text ++ place ++ ": " ++ diagnostic.message
    ++ String.join (diagnostic.hints.map fun hint => " (hint: " ++ hint ++ ")")

end Diagnostic

/-- The plain forms, a line each. -/
def plainText (diagnostics : List Diagnostic) : String :=
  String.join (diagnostics.map fun diagnostic => diagnostic.plain ++ "\n")

/-- Whether a collection has an error. -/
def hasErrors (diagnostics : List Diagnostic) : Bool := diagnostics.any Diagnostic.isError

/-- Whether a collection has a warning. -/
def hasWarnings (diagnostics : List Diagnostic) : Bool := diagnostics.any Diagnostic.isWarning

end RegistrySchema
