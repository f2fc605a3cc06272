import RegistrySchema.Property

/-!
# Type tags

The type that a generator gives to a property, and how it follows from the property's domain.
An enumerated domain is named by its category, unless its key has a fixed name among the
overrides.
-/

namespace RegistrySchema

/-- The type of a property as the generator sees it. -/
inductive TypeTag where
  /-- A bounded integer. -/
  | u8
  /-- A truth value. -/
  | bool
  /-- A named enum. -/
  | named (name : String)
  /-- No rule applies; left for review. -/
  | unclassified
  deriving DecidableEq, Inhabited, Repr

namespace TypeTag

/-- The tag as a report shows it. -/
def text : TypeTag → String
  | u8 => "u8"
  | bool => "bool"
  | named name => name
  | unclassified => "TODO"

/-- The tag that a word of a report stands for: any word but the three fixed ones names an
enum. -/
def ofText (word : String) : TypeTag :=
  if word = "u8" then u8
  else if word = "bool" then bool
  else if word = "TODO" then unclassified
  else named word

/-- The name of the enum, if the tag is one. -/
def enumName? : TypeTag → Option String
  | named name => some name
  | _ => none

/-- Reading a word and writing it again changes nothing. -/
theorem text_ofText (word : String) : (ofText word).text = word := by
  unfold ofText
  split
  · next h => exact h.symm
  · split
    · next h => exact h.symm
    · split
      · next h => exact h.symm
      · rfl

end TypeTag

/-- Fixed enum names by domain key; of several names for one key the last counts. -/
abbrev Overrides := List (String × String)

namespace Overrides

/-- Shared domains whose category alone would be ambiguous. -/
def wellKnown : Overrides :=
  [("HORIZONTAL_AXIS", "HorizontalAxis"),
    ("HOPPER_FACING", "HopperDirection"),
    ("HORIZONTAL_FACING", "HorizontalDirection"),
    ("VERTICAL_DIRECTION", "VerticalDirection"),
    ("STRAIGHT_RAIL_SHAPE", "StraightRailShape")]

/-- The fixed name for a key. -/
def name? (overrides : Overrides) (key : String) : Option String :=
  (overrides.reverse.find? fun entry => entry.1 = key).map Prod.snd

/-- The name of an enumerated domain. -/
def enumName (overrides : Overrides) (domain : EnumDomain) : String :=
  (domain.key.bind overrides.name?).getD domain.category

/-- The tag of a domain. -/
def classify (overrides : Overrides) : Domain → TypeTag
  | .intRange _ _ => .u8
  | .boolean => .bool
  | .enumeration domain => .named (overrides.enumName domain)
  | .unclassified _ => .unclassified

/-- A later override for the same key replaces the earlier ones. -/
theorem name?_append_self (overrides : Overrides) (key name : String) :
    name? (overrides ++ [(key, name)]) key = some name := by
  simp [name?]

/-- An override for another key changes nothing. -/
theorem name?_append_of_ne (overrides : Overrides) {key other : String} (name : String)
    (h : key ≠ other) : name? (overrides ++ [(key, name)]) other = overrides.name? other := by
  simp [name?, h]

end Overrides

end RegistrySchema
