import RegistrySchema.ClassTable
import RegistrySchema.Diagnostic.Basic
import RegistrySchema.Log
import RegistrySchema.Settings

/-!
# The walk over entity kinds

The factory is asked for one object of each entity kind that the registry hands out, except the
player. A kind without an object is recorded without a class and reported; a kind that the
factory refuses is skipped; for any other the class of the object is recorded, and its
ancestors enter the class table.
-/

namespace RegistrySchema

/-- What a report has on an entity kind. -/
structure EntityRecord where
  /-- The kind's name. -/
  name : String
  /-- The class of its object, if there is one. -/
  source : Option SourcePath
  deriving DecidableEq, Inhabited, Repr

/-- What a walk over entity kinds has found so far. -/
structure EntityWalk where
  /-- The records in registry order. -/
  records : List EntityRecord
  /-- The classes met. -/
  classes : ClassTable
  /-- The kinds without an object. -/
  diagnostics : List Diagnostic
  /-- What the factory was asked for: kinds and worlds. -/
  requests : List (Identifier × Identifier)
  /-- What was said about progress. -/
  log : List Log.Entry

namespace EntityWalk

variable {τ : Type} [DecidableEq τ]

/-- The walk before its first entry. -/
def empty : EntityWalk := ⟨[], Catalog.empty, [], [], []⟩

/-- Say that something is skipped. -/
def skip (walk : EntityWalk) (message : String) : EntityWalk :=
  { walk with log := walk.log ++ [⟨.debug, .entities, message⟩] }

/-- Take in the factory's answer for a kind. -/
def receive (graph : TypeGraph τ) (settings : Settings) (walk : EntityWalk) (kind : Identifier) :
    Except SpawnError (Option τ) → EntityWalk
  | .error err => walk.skip ("skipping entity kind `" ++ kind.text ++ "`: " ++ err.message)
  | .ok none =>
    let name := settings.kindName kind
    { walk with
      records := walk.records ++ [⟨name, none⟩]
      diagnostics := walk.diagnostics ++ [(Diagnostic.ofKind .instantiationEmpty).about name] }
  | .ok (some t) =>
    { walk with
      records := walk.records ++ [⟨settings.kindName kind, some (graph.sourcePath t)⟩]
      classes := ClassTable.collect graph walk.classes t }

/-- Take in one registry entry. -/
def visit (graph : TypeGraph τ) (factory : Factory τ) (settings : Settings) (walk : EntityWalk) :
    Except AccessError Identifier → EntityWalk
  | .error err => walk.skip ("skipping entity entry: " ++ err.message)
  | .ok kind =>
    if kind = settings.player then
      walk.skip ("skipping player kind `" ++ kind.text ++ "`")
    else
      { walk with requests := walk.requests ++ [(kind, settings.world)] }.receive graph settings
        kind (factory kind settings.world)

/-- Close the walk with a summary. -/
def finish (walk : EntityWalk) : EntityWalk :=
  { walk with
    log := walk.log ++ [⟨.info, .entities, "walked " ++ toString walk.records.length
      ++ " entity kinds, " ++ toString walk.classes.size ++ " classes"⟩] }

/-- Walk over a registry. -/
def run (graph : TypeGraph τ) (factory : Factory τ) (settings : Settings)
    (registry : Registry Identifier) : EntityWalk :=
  (registry.foldl (visit graph factory settings) empty).finish

end EntityWalk

end RegistrySchema
