import RegistrySchema.Text.Split

/-!
# Identifiers

A kind is known by a namespace and a path, written `namespace:path`. Reading cuts at the first
colon and completes a text without one by the default namespace.
-/

namespace RegistrySchema

/-- The name of a kind within its registry. -/
structure Identifier where
  /-- The namespace, before the colon. -/
  space : String
  /-- The path, after the colon. -/
  path : String
  deriving DecidableEq, Inhabited, Repr

namespace Identifier

/-- Namespace of an identifier written without one. -/
def defaultSpace : String := "minecraft"

/-- Read `namespace:path`, cutting at the first colon. -/
def parse (s : String) : Identifier :=
  match Text.splitOnce [':'] s.toList with
  | some (space, path) => ⟨String.ofList space, String.ofList path⟩
  | none => ⟨defaultSpace, s⟩

/-- The written form, `namespace:path`. -/
def text (id : Identifier) : String := id.space ++ ":" ++ id.path

/-- The path alone if the namespace is `space`, and the written form otherwise. -/
def stripped (id : Identifier) (space : String) : String :=
  if id.space = space then id.path else id.text

/-- Namespaces decide, then paths, both by code points. -/
def compare (a b : Identifier) : Ordering :=
  (compareOfLessAndEq a.space b.space).then (compareOfLessAndEq a.path b.path)

end Identifier

end RegistrySchema
