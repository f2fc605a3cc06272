/-!
# Source paths

A class is named in a report by the path of its source file: the qualified name with slashes
for dots, followed by the source extension.
-/

namespace RegistrySchema

/-- The path-like name of a class. -/
structure SourcePath where
  /-- The path as it is written. -/
  text : String
  deriving DecidableEq, Inhabited, Repr

namespace SourcePath

/-- What a source file's name ends in. -/
def extension : String := ".java"

/-- The source path of the class with a qualified name such as `a.b.C`. -/
def ofQualifiedName (name : String) : SourcePath :=
  ⟨String.ofList (name.toList.map fun c => if c = '.' then '/' else c) ++ extension⟩

end SourcePath

end RegistrySchema
