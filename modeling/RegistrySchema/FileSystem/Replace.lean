import RegistrySchema.FileSystem.Basic
import RegistrySchema.Sink

/-!
# Replacing files as a whole

A file is replaced by writing to a temporary file beside it, which is moved to its place when all
is written. Whatever fails on the way, the temporary file is removed and the old file stays as it
is.
-/

namespace RegistrySchema

/-- Failures that the file system does not account for itself, at each point where there can be
one. -/
structure Faults where
  /-- The file that is read is out of reach. -/
  read : Option IoError := none
  /-- The temporary file cannot be made. -/
  create : Option IoError := none
  /-- The device that takes the bytes of the temporary file. -/
  device : Sink := {}
  /-- The temporary file cannot be moved. -/
  move : Option IoError := none

/-- Fail if there is a failure. -/
def IoError.raise : Option IoError → Except IoError Unit
  | none => .ok ()
  | some err => .error err

namespace FileSystem

/-- A name that is not on the way to any place, for one that is chosen at random. -/
def freshName (fs : FileSystem) : String :=
  let longest := (fs.nodes.keys.flatten.map String.length).foldl max 0
  ".tmp" ++ String.ofList (List.replicate longest 'x')

/-- Number of bytes of a name that is chosen at random. -/
def randomNameLength : Nat := 10

/-- The path from the root to a file with a random name in a directory; every letter of the name
stands for any. -/
def temporaryPath (fs : FileSystem) (directory : Path) : Path where
  absolute := true
  pieces :=
    (if directory.absolute then directory.pieces else fs.current ++ directory.pieces)
      ++ [String.ofList (List.replicate randomNameLength 'x')]

/-- Make an empty file under a fresh name in a directory. -/
def createTemporary (fs : FileSystem) (directory : Path) : Except IoError (Place × FileSystem) := do
  refuseLong (fs.temporaryPath directory)
  let parent ← fs.walk (fs.start directory) directory.steps
  fs.wantDirectory parent
  let place := parent ++ [fs.freshName]
  return (place, fs.put place (.file []))

/-- The place that a file moves to. The last step of the path has to be a name with nothing
behind it, and no directory may be there. -/
def destination (fs : FileSystem) (target : Path) : Except IoError Place := do
  refuseLong target
  match target.steps.getLast? with
  | none => .error .busy
  | some name =>
    let directory ← fs.walk (fs.start target) target.steps.dropLast
    let place ← fs.entry directory name
    if name = "." || name = ".." then .error .busy
    else if target.endsInSlash then .error .notADirectory
    else
      match fs.node? place with
      | some .directory => .error .isADirectory
      | _ => .ok place

/-- Move a file with the given bytes to where a path leads. -/
def move (fs : FileSystem) (source : Place) (bytes : List UInt8) (target : Path) :
    Except IoError FileSystem := do
  let place ← fs.destination target
  return (fs.remove source).put place (.file bytes)

/-- Write to a temporary file beside the target and move it there. -/
def replace (fs : FileSystem) (faults : Faults) (target : Path) (write : Sink → Sink.Written) :
    Except IoError Unit × FileSystem :=
  match IoError.raise faults.create >>= fun _ => fs.createTemporary target.parent with
  | .error err => (.error err, fs)
  | .ok (temporary, begun) =>
    let written := write faults.device
    let bytes := written.sink.received
    let filled := begun.put temporary (.file bytes)
    match written.result >>= fun _ => IoError.raise faults.move >>= fun _ =>
        filled.move temporary bytes target with
    | .error err => (.error err, filled.remove temporary)
    | .ok moved => (.ok (), moved)

end FileSystem

end RegistrySchema
