/-!
# Ranges of characters

Classes of characters that are given as runs of consecutive code points.
-/

namespace RegistrySchema.Text

/-- First and last code point of each run of a class, in ascending order. -/
abbrev Ranges := List (Nat × Nat)

/-- Whether a character belongs to a class. -/
def Ranges.contain : Ranges → Char → Bool
  | [], _ => false
  | (first, last) :: others, c =>
    first ≤ c.toNat && (c.toNat ≤ last || Ranges.contain others c)

end RegistrySchema.Text
