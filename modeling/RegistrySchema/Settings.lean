import RegistrySchema.Identifier

/-!
# Settings of a run

The namespace that report names leave out, the entity kind that is never made, and the world
that objects are made in.
-/

namespace RegistrySchema

/-- What can be chosen for a run. -/
structure Settings where
  /-- Namespace left out of names in the report. -/
  space : String := Identifier.defaultSpace
  /-- Entity kind that is never made. -/
  player : Identifier := ⟨Identifier.defaultSpace, "player"⟩
  /-- World that objects are made in. -/
  world : Identifier := ⟨Identifier.defaultSpace, "overworld"⟩
  deriving DecidableEq, Inhabited, Repr

/-- The name of a kind in the report. -/
def Settings.kindName (settings : Settings) (id : Identifier) : String :=
  id.stripped settings.space

end RegistrySchema
