import RegistrySchema.Ancestors
import RegistrySchema.Catalog

/-!
# The class table

Every class that a walk meets, with its own lineage, in the order of discovery. Collecting a
type enters it and then each of its ancestors; the ancestors are not expanded further.
-/

namespace RegistrySchema

/-- Lineages by class, in the order of discovery. -/
abbrev ClassTable := Catalog SourcePath (List SourcePath)

namespace ClassTable

variable {τ : Type} [DecidableEq τ]

/-- Enter a type with its lineage. -/
def enter (graph : TypeGraph τ) (table : ClassTable) (t : τ) : ClassTable :=
  table.insert (graph.sourcePath t) (graph.lineage t)

/-- Enter a type and then its ancestors. -/
def collect (graph : TypeGraph τ) (table : ClassTable) (t : τ) : ClassTable :=
  (graph.ancestors t).foldl (enter graph) (enter graph table t)

end ClassTable

end RegistrySchema
