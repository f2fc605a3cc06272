import RegistrySchema.Identifier

/-!
# The host

What an extraction needs from the program that owns the registries: a list of entries some of
which cannot be handed out, a factory that makes one object per entity kind, and the types of
these objects. An object matters only through its type, so the factory answers with the type.
-/

namespace RegistrySchema

/-- A registry entry that cannot be handed out. -/
structure AccessError where
  /-- The entry as the host names it. -/
  entry : String
  /-- Why it is withheld. -/
  reason : String
  deriving DecidableEq, Inhabited, Repr

/-- The wording of an access error. -/
def AccessError.message (err : AccessError) : String :=
  "cannot access registry entry `" ++ err.entry ++ "`: " ++ err.reason

/-- The entries of a registry in the host's order. -/
abbrev Registry (κ : Type) := List (Except AccessError κ)

/-- Why a factory made no object. -/
inductive SpawnFailure where
  /-- The object made is not an entity. -/
  | typeMismatch
  /-- The constructor is out of reach. -/
  | access
  deriving DecidableEq, Inhabited, Repr

/-- A factory's failure for one kind. -/
structure SpawnError where
  /-- What went wrong. -/
  failure : SpawnFailure
  /-- The kind that was asked for. -/
  kind : Identifier
  deriving DecidableEq, Inhabited, Repr

/-- The wording of a factory's failure. -/
def SpawnError.message (err : SpawnError) : String :=
  match err.failure with
  | .typeMismatch => "instance of `" ++ err.kind.text ++ "` has an unexpected type"
  | .access => "cannot access constructor for `" ++ err.kind.text ++ "`"

/-- Makes an object of a kind in a world and answers with its type, or with `none` if there is
no object. -/
abbrev Factory (τ : Type) := (kind world : Identifier) → Except SpawnError (Option τ)

/-- A finite system of types with their direct superclasses and interfaces. Nothing rules out
cycles. -/
structure TypeGraph (τ : Type) where
  /-- All types. -/
  types : List τ
  /-- Every type is listed. -/
  mem_types : ∀ t, t ∈ types
  /-- The fully qualified name. -/
  name : τ → String
  /-- The interfaces that a type declares itself, in order. -/
  interfaces : τ → List τ
  /-- The direct superclass, if there is one. -/
  superclass : τ → Option τ
  /-- Whether a type is the root that every class extends. -/
  isRoot : τ → Bool

end RegistrySchema
