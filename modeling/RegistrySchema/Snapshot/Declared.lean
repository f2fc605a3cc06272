import RegistrySchema.Catalog
import RegistrySchema.Host
import RegistrySchema.Property

/-!
# What a snapshot declares

A snapshot is a captured registry. It declares block kinds with their properties, entity kinds
with what becomes of an attempt to make one, and classes with their superclasses and
interfaces, all of them by name.
-/

namespace RegistrySchema.Snapshot

/-- A block kind as it is declared. -/
structure DeclaredBlock where
  /-- Its identifier. -/
  id : Identifier
  /-- Its properties. -/
  properties : List Property
  /-- Whether the registry withholds it. -/
  inaccessible : Bool
  deriving DecidableEq, Inhabited, Repr

/-- An entity kind as it is declared. -/
structure DeclaredEntity where
  /-- Its identifier. -/
  id : Identifier
  /-- The class of its object. -/
  className : Option String
  /-- The failure of its factory. -/
  failure : Option SpawnFailure
  /-- Whether the registry withholds it. -/
  inaccessible : Bool
  deriving DecidableEq, Inhabited, Repr

/-- A class as it is declared. -/
structure DeclaredClass where
  /-- The name of its superclass. -/
  superclass : Option String
  /-- The names of the interfaces that it declares. -/
  interfaces : List String
  deriving DecidableEq, Inhabited, Repr

/-- All that a snapshot declares. -/
structure Declarations where
  /-- The block kinds. -/
  blocks : List DeclaredBlock
  /-- The entity kinds. -/
  entities : List DeclaredEntity
  /-- The classes by name. -/
  classes : Catalog String DeclaredClass
  /-- The name of the root class. -/
  root : String

/-- The root class of a snapshot that names none. -/
def defaultRoot : String := "java.lang.Object"

/-- The registry entry of a block kind. -/
def DeclaredBlock.entry (block : DeclaredBlock) : Except AccessError BlockKind :=
  if block.inaccessible then .error ⟨block.id.text, "field is not a block"⟩
  else .ok ⟨block.id, block.properties⟩

end RegistrySchema.Snapshot
