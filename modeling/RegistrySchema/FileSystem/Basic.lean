import RegistrySchema.Catalog
import RegistrySchema.FileSystem.Path
import RegistrySchema.IoError
import RegistrySchema.Text.Bytes

/-!
# File systems

A file system is a table of places. A place is given by the names on the way from the root; there
is a directory or a file with its bytes. A path is walked step by step, and every step but the
last has to end in a directory.
-/

namespace RegistrySchema

/-- The names on the way from the root. -/
abbrev Place := List String

/-- What there is at a place. -/
inductive Node where
  | directory
  | file (bytes : List UInt8)
  deriving DecidableEq, Inhabited, Repr

/-- A file system as a running program sees it. -/
structure FileSystem where
  /-- The places with something at them, the root apart. -/
  nodes : Catalog Place Node
  /-- The directory where relative paths start. -/
  current : Place

namespace FileSystem

/-- The largest number of bytes of a name. -/
def maxNameLength : Nat := 255

/-- The largest number of bytes of a path. -/
def maxPathLength : Nat := 4095

/-- Refuse a path that is too long, whatever it leads to. -/
def refuseLong (path : Path) : Except IoError Unit :=
  if maxPathLength < path.length then .error .nameTooLong else .ok ()

/-- What there is at a place. The root is a directory. -/
def node? (fs : FileSystem) (place : Place) : Option Node :=
  if place = [] then some .directory else fs.nodes.get? place

/-- Put something at a place. -/
def put (fs : FileSystem) (place : Place) (node : Node) : FileSystem :=
  { fs with nodes := fs.nodes.put place node }

/-- Leave nothing at a place. -/
def remove (fs : FileSystem) (place : Place) : FileSystem :=
  { fs with nodes := fs.nodes.erase place }

/-- Refuse a place where there is no directory. -/
def wantDirectory (fs : FileSystem) (place : Place) : Except IoError Unit :=
  match fs.node? place with
  | none => .error .notFound
  | some (.file _) => .error .notADirectory
  | some .directory => .ok ()

/-- The place of a name in a directory. -/
def entry (fs : FileSystem) (directory : Place) (name : String) : Except IoError Place := do
  fs.wantDirectory directory
  if maxNameLength < name.utf8ByteSize then .error .nameTooLong else .ok (directory ++ [name])

/-- The place where steps lead to. Something has to be there. -/
def walk (fs : FileSystem) (place : Place) : List String → Except IoError Place
  | [] => .ok place
  | step :: steps =>
    match fs.entry place step with
    | .error err => .error err
    | .ok next =>
      if step = "." then fs.walk place steps
      else if step = ".." then fs.walk place.dropLast steps
      else if (fs.node? next).isSome then fs.walk next steps
      else .error .notFound

/-- Where a path starts. -/
def start (fs : FileSystem) (path : Path) : Place := if path.absolute then [] else fs.current

/-- What a path leads to. A slash at the end asks for a directory. -/
def lookup (fs : FileSystem) (path : Path) : Except IoError Node := do
  refuseLong path
  match fs.node? (← fs.walk (fs.start path) path.steps) with
  | none => .error .notFound
  | some .directory => .ok .directory
  | some (.file bytes) => if path.endsInSlash then .error .notADirectory else .ok (.file bytes)

/-- The text in a file. -/
def readText (fs : FileSystem) (path : Path) : Except IoError String := do
  match ← fs.lookup path with
  | .directory => .error .isADirectory
  | .file bytes =>
    match Text.decode? bytes with
    | none => .error .notText
    | some text => .ok text

end FileSystem

end RegistrySchema
