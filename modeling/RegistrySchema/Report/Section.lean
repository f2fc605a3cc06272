/-!
# Sections of a report

A report has four sections, each with a word of its own at the head of its lines, always in the
same order.
-/

namespace RegistrySchema.Report

/-- The families of records, in report order. -/
inductive Section where
  | blocks
  | enums
  | entities
  | classes
  deriving DecidableEq, Inhabited, Repr

namespace Section

/-- Position in a report. -/
def rank : Section → Nat
  | blocks => 0
  | enums => 1
  | entities => 2
  | classes => 3

/-- The word at the head of a line. -/
def tag : Section → String
  | blocks => "BLOCKINFO"
  | enums => "ENUMINFO"
  | entities => "ENTITYINFO"
  | classes => "ENTITYCLASSINFO"

/-- All sections in order. -/
def all : List Section := [blocks, enums, entities, classes]

/-- The section with a tag. -/
def ofTag? (word : String) : Option Section := all.find? fun s => s.tag = word

/-- A section is found by its tag, and by no other word. -/
theorem ofTag?_eq_some_iff {word : String} {s : Section} : ofTag? word = some s ↔ s.tag = word := by
  constructor
  · intro h
    simpa using List.find?_some h
  · rintro rfl
    cases s <;> rfl

end Section

end RegistrySchema.Report
