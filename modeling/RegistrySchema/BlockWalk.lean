import RegistrySchema.Diagnostic.Basic
import RegistrySchema.EnumTable
import RegistrySchema.Host
import RegistrySchema.Log
import RegistrySchema.Settings
import RegistrySchema.TypeTag

/-!
# The walk over block kinds

Each block kind that the registry hands out becomes a record of its property tags, in registry
order. The labels of every enumerated property are sighted in declared order; a conflict with
the enum table is reported and leaves the tag on the record.
-/

namespace RegistrySchema

/-- What a report has on a block kind. -/
structure BlockRecord where
  /-- The kind's name. -/
  name : String
  /-- Property names and tags in declared order. -/
  properties : List (String × TypeTag)
  deriving DecidableEq, Inhabited, Repr

/-- What a walk over block kinds has found so far. -/
structure BlockWalk where
  /-- The records in registry order. -/
  records : List BlockRecord
  /-- The enum types. -/
  enums : EnumTable
  /-- The conflicts. -/
  diagnostics : List Diagnostic
  /-- What was said about progress. -/
  log : List Log.Entry

namespace BlockWalk

/-- The sighting that a property makes, if its domain is enumerated. -/
def sighting? (overrides : Overrides) (owner : String) (property : Property) : Option Sighting :=
  match property.domain with
  | .enumeration domain => some ⟨overrides.enumName domain, domain.labels, owner⟩
  | _ => none

/-- The diagnostic of a conflict. -/
def conflictDiagnostic (conflict : EnumConflict) : Diagnostic :=
  (Diagnostic.ofKind .enumConflict).about conflict.message

/-- Enter a sighting and report its conflict. -/
def sight (walk : BlockWalk) (sighting : Sighting) : BlockWalk :=
  { walk with
    enums := EnumTable.register walk.enums sighting
    diagnostics := walk.diagnostics ++
      ((EnumTable.conflict? walk.enums sighting).map conflictDiagnostic).toList }

/-- The record of a kind under a name. -/
def record (overrides : Overrides) (name : String) (kind : BlockKind) : BlockRecord :=
  { name
    properties := kind.properties.map fun property =>
      (property.name, overrides.classify property.domain) }

/-- Take in one registry entry. -/
def visit (overrides : Overrides) (settings : Settings) (walk : BlockWalk) :
    Except AccessError BlockKind → BlockWalk
  | .error err =>
    { walk with
      log := walk.log ++ [⟨.debug, .blocks, "skipping block entry: " ++ err.message⟩] }
  | .ok kind =>
    let name := settings.kindName kind.id
    let sighted :=
      (kind.properties.filterMap (sighting? overrides name)).foldl sight walk
    { sighted with records := sighted.records ++ [record overrides name kind] }

/-- Close the walk with a summary. -/
def finish (walk : BlockWalk) : BlockWalk :=
  { walk with
    log := walk.log ++ [⟨.info, .blocks, "walked " ++ toString walk.records.length
      ++ " block kinds, " ++ toString walk.enums.size ++ " enum types"⟩] }

/-- Walk over a registry, adding to a table of enum types. -/
def run (overrides : Overrides) (settings : Settings) (enums : EnumTable)
    (registry : Registry BlockKind) : BlockWalk :=
  (registry.foldl (visit overrides settings) ⟨[], enums, [], []⟩).finish

end BlockWalk

end RegistrySchema
