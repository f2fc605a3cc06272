import RegistrySchema.BlockWalk
import RegistrySchema.EntityWalk
import RegistrySchema.Report.Section

/-!
# Records of a report

The four families of records, and reports as they are read: each record with the number and
the span of its line.
-/

namespace RegistrySchema

/-- What a report has on an enum type. -/
structure EnumRecord where
  /-- The enum's name. -/
  name : String
  /-- Its labels. -/
  values : List String
  deriving DecidableEq, Inhabited, Repr

/-- What a report has on a class. -/
structure ClassRecord where
  /-- The class. -/
  source : SourcePath
  /-- Its ancestors. -/
  ancestors : List SourcePath
  deriving DecidableEq, Inhabited, Repr

/-- A record with its place. -/
structure Located (α : Type) where
  /-- The record. -/
  record : α
  /-- The bytes of its line, without the terminator. -/
  span : Span
  /-- The number of its line, from 1. -/
  line : Nat
  deriving DecidableEq, Inhabited, Repr

/-- A record of any family. -/
inductive Record where
  | block (record : BlockRecord)
  | enum (record : EnumRecord)
  | entity (record : EntityRecord)
  | lineage (record : ClassRecord)
  deriving DecidableEq, Inhabited, Repr

/-- The section that a record belongs to. -/
def Record.family : Record → Report.Section
  | block _ => .blocks
  | enum _ => .enums
  | entity _ => .entities
  | lineage _ => .classes

/-- A report that was read: its records by family, in the order of the lines. -/
structure Report where
  /-- The block records. -/
  blocks : List (Located BlockRecord)
  /-- The enum records. -/
  enums : List (Located EnumRecord)
  /-- The entity records. -/
  entities : List (Located EntityRecord)
  /-- The class records. -/
  classes : List (Located ClassRecord)
  deriving DecidableEq, Inhabited, Repr

namespace Report

/-- The report without records. -/
def empty : Report := ⟨[], [], [], []⟩

/-- Whether there is no record. -/
def isEmpty (report : Report) : Bool :=
  report.blocks.isEmpty && report.enums.isEmpty && report.entities.isEmpty
    && report.classes.isEmpty

/-- Put a record at the head of its family. -/
def cons (entry : Located Record) (report : Report) : Report :=
  match entry.record with
  | .block r => { report with blocks := ⟨r, entry.span, entry.line⟩ :: report.blocks }
  | .enum r => { report with enums := ⟨r, entry.span, entry.line⟩ :: report.enums }
  | .entity r => { report with entities := ⟨r, entry.span, entry.line⟩ :: report.entities }
  | .lineage r => { report with classes := ⟨r, entry.span, entry.line⟩ :: report.classes }

/-- Sort located records into their families. -/
def ofEntries (entries : List (Located Record)) : Report := entries.foldr cons empty

end Report

end RegistrySchema
