import RegistrySchema.Catalog

/-!
# Enum unification

Many properties share one list of labels and one enum name. The first list seen under a name is
canonical; a later sighting with another list is a conflict, which changes nothing.
-/

namespace RegistrySchema

/-- The enum types of a run with their labels, in the order of the first sightings. -/
abbrev EnumTable := Catalog String (List String)

/-- One use of an enum name. -/
structure Sighting where
  /-- The enum's name. -/
  name : String
  /-- The labels found there. -/
  values : List String
  /-- The kind whose property it is. -/
  owner : String
  deriving DecidableEq, Inhabited, Repr

/-- A sighting that disagrees with the table. -/
structure EnumConflict where
  /-- The enum's name. -/
  name : String
  /-- The labels in the table. -/
  canonical : List String
  /-- The labels of the sighting. -/
  rejected : List String
  /-- The kind whose property was sighted. -/
  owner : String
  deriving DecidableEq, Inhabited, Repr

/-- The wording of a conflict. -/
def EnumConflict.message (conflict : EnumConflict) : String :=
  "`" ++ conflict.name ++ "` on `" ++ conflict.owner ++ "` is ["
    ++ String.intercalate ", " conflict.rejected ++ "], already defined as ["
    ++ String.intercalate ", " conflict.canonical ++ "]"

namespace EnumTable

/-- The conflict that a sighting makes with a table. -/
def conflict? (table : EnumTable) (sighting : Sighting) : Option EnumConflict :=
  match table.get? sighting.name with
  | none => none
  | some canonical =>
    if canonical = sighting.values then none
    else some ⟨sighting.name, canonical, sighting.values, sighting.owner⟩

/-- The table after a sighting: a new name is entered, a known one kept. -/
def register (table : EnumTable) (sighting : Sighting) : EnumTable :=
  table.insert sighting.name sighting.values

end EnumTable

end RegistrySchema
