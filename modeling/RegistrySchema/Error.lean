import RegistrySchema.IoError
import RegistrySchema.Report.Reader
import RegistrySchema.Snapshot.Basic

/-!
# Errors of the library

Everything that the library's operations fail with.
-/

namespace RegistrySchema

/-- Why an operation failed. -/
inductive Error where
  /-- A file or a device. -/
  | io (err : IoError)
  /-- A snapshot. -/
  | snapshot (err : Snapshot.LoadError)
  /-- A report. -/
  | report (err : Report.ReadError)
  deriving DecidableEq, Inhabited, Repr

/-- The wording of an error. -/
def Error.message : Error → String
  | io err => "I/O error: " ++ err.message
  | snapshot err => err.message
  | report err => err.message

end RegistrySchema
