/-!
# Kinds of diagnostics

What can be wrong with an extraction or a report, how severe it is, and how it is worded. A
kind has a message for itself and a template that takes a detail, and some kinds have a hint.
-/

namespace RegistrySchema

/-- How severe a diagnostic is. -/
inductive Severity where
  | error
  | warning
  deriving DecidableEq, Inhabited, Repr

/-- The severity as a word. -/
def Severity.text : Severity → String
  | .error => "error"
  | .warning => "warning"

/-- What a diagnostic is about. -/
inductive DiagnosticKind where
  /-- An enum name was sighted with another list of labels. -/
  | enumConflict
  /-- The factory made no object for an entity kind. -/
  | instantiationEmpty
  /-- A tag names an enum without a record. -/
  | undefinedEnum
  /-- An entity or a chain names a class without a record. -/
  | undefinedClass
  /-- A second record for an enum. -/
  | duplicateEnum
  /-- A second record for a class. -/
  | duplicateClass
  /-- A chain names a class again. -/
  | duplicateAncestor
  /-- A property without a type. -/
  | unclassifiedProperty
  deriving DecidableEq, Inhabited, Repr

namespace DiagnosticKind

/-- Position in the order of kinds: extraction, cross references, uniqueness, review. -/
def rank : DiagnosticKind → Nat
  | enumConflict => 0
  | instantiationEmpty => 1
  | undefinedEnum => 2
  | undefinedClass => 3
  | duplicateEnum => 4
  | duplicateClass => 5
  | duplicateAncestor => 6
  | unclassifiedProperty => 7

/-- Kinds are ordered by their rank. -/
def compare (a b : DiagnosticKind) : Ordering := Ord.compare a.rank b.rank

/-- Two kinds only need a human eye; the others are errors. -/
def severity : DiagnosticKind → Severity
  | instantiationEmpty | unclassifiedProperty => .warning
  | _ => .error

/-- Advice that goes with every diagnostic of the kind. -/
def hint? : DiagnosticKind → Option String
  | enumConflict =>
    some "the first value list is kept; give one of the domains a fixed override"
  | unclassifiedProperty => some "the generator cannot type this field"
  | _ => none

/-- The message without a detail. -/
def fallback : DiagnosticKind → String
  | enumConflict => "ambiguous enum type"
  | instantiationEmpty => "entity kind produced no instance"
  | undefinedEnum => "enum type has no ENUMINFO record"
  | undefinedClass => "class has no ENTITYCLASSINFO record"
  | duplicateEnum => "duplicate enum type"
  | duplicateClass => "duplicate class"
  | duplicateAncestor => "duplicate ancestor"
  | unclassifiedProperty => "property has an unclassified type"

/-- What stands before and after the detail. -/
def frame : DiagnosticKind → String × String
  | enumConflict => (fallback enumConflict ++ ": ", "")
  | instantiationEmpty => ("entity kind `", "` produced no instance")
  | undefinedEnum => ("enum type `", "` has no ENUMINFO record")
  | undefinedClass => ("class `", "` has no ENTITYCLASSINFO record")
  | duplicateEnum => ("enum type `", "` is defined twice")
  | duplicateClass => ("class `", "` is listed twice")
  | duplicateAncestor => ("`", "` appears twice in one ancestor chain")
  | unclassifiedProperty => ("property `", "` has an unclassified type")

/-- The message about a detail. -/
def messageAbout (kind : DiagnosticKind) (detail : String) : String :=
  kind.frame.1 ++ detail ++ kind.frame.2

/-- The message about a place holder, an empty pair of braces. -/
def template (kind : DiagnosticKind) : String := kind.messageAbout "\x7b\x7d"

/-- The message, with a detail if there is one. -/
def message (kind : DiagnosticKind) : Option String → String
  | none => kind.fallback
  | some detail => kind.messageAbout detail

end DiagnosticKind

end RegistrySchema
