import RegistrySchema.Text.Ranges

/-!
# Sets of characters

Sets of code points as ascending runs with gaps between them, and the operations of the classes in
a pattern. A set that was not told to be closed under a change of case counts as open.
-/

namespace RegistrySchema.Pattern

open Text (Ranges)

/-- Put a run behind runs in descending order that start no later; runs without a gap between
them become one. -/
def addRun (runs : Ranges) (run : Nat × Nat) : Ranges :=
  match runs with
  | [] => [run]
  | (first, last) :: others =>
    if run.1 ≤ last + 1 then (first, max last run.2) :: others else run :: (first, last) :: others

/-- The runs of all code points in some ranges. -/
def runs (ranges : List (Nat × Nat)) : Ranges :=
  ((ranges.mergeSort fun a b => a.1 ≤ b.1).foldl addRun []).reverse

/-- The code points from `next` to `limit` that are in none of the runs. -/
def gaps (limit next : Nat) : Ranges → Ranges
  | [] => if next ≤ limit then [(next, limit)] else []
  | (first, last) :: others =>
    if next < first then (next, first - 1) :: gaps limit (last + 1) others
    else gaps limit (last + 1) others

/-- The code points that two ranges share. -/
def overlap? (a b : Nat × Nat) : Option (Nat × Nat) :=
  if max a.1 b.1 ≤ min a.2 b.2 then some (max a.1 b.1, min a.2 b.2) else none

/-- A set of characters. -/
structure CharSet where
  /-- Its code points. -/
  ranges : Ranges
  /-- Whether it is known to have each letter in every case. -/
  folded : Bool
  deriving DecidableEq, Inhabited, Repr

namespace CharSet

/-- The set without characters. -/
def empty : CharSet := ⟨[], true⟩

/-- The set of the characters in some ranges. -/
def ofRanges (ranges : List (Nat × Nat)) : CharSet := ⟨runs ranges, ranges.isEmpty⟩

/-- The set of a character. -/
def singleton (c : Char) : CharSet := ofRanges [(c.toNat, c.toNat)]

/-- Code points that are no characters. -/
def surrogates : Nat × Nat := (0xD800, 0xDFFF)

/-- The last code point. -/
def lastCode : Nat := 0x10FFFF

/-- All characters that are not in a set. -/
def complement (set : CharSet) : CharSet :=
  ⟨gaps lastCode 0 (runs (surrogates :: set.ranges)), set.ranges.isEmpty || set.folded⟩

/-- All single bytes that are not in a set. -/
def byteComplement (set : CharSet) : CharSet :=
  ⟨gaps 0xFF 0 set.ranges, set.ranges.isEmpty || set.folded⟩

/-- What is in one of two sets. -/
def union (a b : CharSet) : CharSet :=
  if b.ranges.isEmpty || a.ranges = b.ranges then a
  else ⟨runs (a.ranges ++ b.ranges), a.folded && b.folded⟩

/-- What is in both of two sets. -/
def inter (a b : CharSet) : CharSet :=
  if a.ranges.isEmpty then a
  else if b.ranges.isEmpty then empty
  else ⟨runs (a.ranges.flatMap fun r => b.ranges.filterMap (overlap? r)), a.folded && b.folded⟩

/-- What is in the first set and not in the second. -/
def difference (a b : CharSet) : CharSet :=
  if a.ranges.isEmpty || b.ranges.isEmpty then a
  else ⟨(a.inter ⟨gaps lastCode 0 b.ranges, true⟩).ranges, a.folded && b.folded⟩

/-- What is in exactly one of two sets. -/
def symmetricDifference (a b : CharSet) : CharSet := (a.union b).difference (a.inter b)

/-- A set with each letter of the basic alphabet in both cases. -/
def foldBasic (set : CharSet) : CharSet :=
  let lower := (set.ranges.filterMap (overlap? ('a'.toNat, 'z'.toNat))).map fun run =>
    (run.1 - 32, run.2 - 32)
  let upper := (set.ranges.filterMap (overlap? ('A'.toNat, 'Z'.toNat))).map fun run =>
    (run.1 + 32, run.2 + 32)
  ⟨runs (set.ranges ++ lower ++ upper), true⟩

/-- Whether all characters are among the first 128. -/
def isBasic (set : CharSet) : Bool := set.ranges.all fun run => run.2 ≤ 0x7F

end CharSet

end RegistrySchema.Pattern
