import RegistrySchema.Report.Record

/-!
# Checking reports

A report that was read is checked for tags without a type, for enum names and classes that have
no record, for names with two records, and for ancestors named twice in a chain. An ancestor
needs a record of its own only in the chain of a class that some entity has. Findings come in
the order of the lines.
-/

namespace RegistrySchema.Report

/-- The finding that a property makes, given the enum names with a record. -/
def propertyFinding? (enums : List String) (block : BlockRecord) :
    String × TypeTag → Option Diagnostic
  | (property, .unclassified) =>
    some ((Diagnostic.ofKind .unclassifiedProperty).about (block.name ++ "." ++ property))
  | (_, .named name) =>
    if name ∈ enums then none else some ((Diagnostic.ofKind .undefinedEnum).about name)
  | _ => none

/-- The findings on a block record. -/
def blockFindings (enums : List String) (block : Located BlockRecord) : List Diagnostic :=
  (block.record.properties.filterMap (propertyFinding? enums block.record)).map
    (·.withSpan block.span)

/-- The findings on enum records, given the names that came before: one for each repeated
name. -/
def enumFindings (seen : List String) : List (Located EnumRecord) → List Diagnostic
  | [] => []
  | enum :: enums =>
    if enum.record.name ∈ seen then
      ((Diagnostic.ofKind .duplicateEnum).about enum.record.name).withSpan enum.span
        :: enumFindings seen enums
    else enumFindings (enum.record.name :: seen) enums

/-- A class without a record. -/
def undefinedClass (source : SourcePath) : Diagnostic :=
  (Diagnostic.ofKind .undefinedClass).about source.text

/-- The finding on an entity record, given the classes with a record. -/
def entityFinding? (classes : List SourcePath) (entity : Located EntityRecord) :
    Option Diagnostic :=
  match entity.record.source with
  | none => none
  | some source =>
    if source ∈ classes then none else some ((undefinedClass source).withSpan entity.span)

/-- The findings on a chain, given the ancestors that came before: one for each repeated
ancestor, and, in a closed chain, one for each ancestor without a record. -/
def chainFindings (classes : List SourcePath) (closed : Bool) (seen : List SourcePath) :
    List SourcePath → List Diagnostic
  | [] => []
  | ancestor :: ancestors =>
    if ancestor ∈ seen then
      (Diagnostic.ofKind .duplicateAncestor).about ancestor.text
        :: chainFindings classes closed seen ancestors
    else if closed && decide (ancestor ∉ classes) then
      undefinedClass ancestor :: chainFindings classes closed (ancestor :: seen) ancestors
    else chainFindings classes closed (ancestor :: seen) ancestors

/-- The findings on class records, given the classes of entities, the classes with a record and
the classes that came before. -/
def classFindings (concrete classes seen : List SourcePath) :
    List (Located ClassRecord) → List Diagnostic
  | [] => []
  | entry :: others =>
    let source := entry.record.source
    let repeated :=
      if source ∈ seen then [(Diagnostic.ofKind .duplicateClass).about source.text] else []
    let chain := chainFindings classes (decide (source ∈ concrete)) [] entry.record.ancestors
    (repeated ++ chain).map (·.withSpan entry.span)
      ++ classFindings concrete classes (source :: seen) others

/-- The enum names with a record. -/
def enumNames (report : Report) : List String := report.enums.map (·.record.name)

/-- The classes with a record. -/
def definedClasses (report : Report) : List SourcePath := report.classes.map (·.record.source)

/-- The classes that entities have. -/
def concreteClasses (report : Report) : List SourcePath :=
  report.entities.filterMap (·.record.source)

/-- Check a report. -/
def check (report : Report) : List Diagnostic :=
  report.blocks.flatMap (blockFindings report.enumNames)
    ++ enumFindings [] report.enums
    ++ report.entities.filterMap (entityFinding? report.definedClasses)
    ++ classFindings report.concreteClasses report.definedClasses [] report.classes

end RegistrySchema.Report
