/-!
# Errors of files and devices

Why a file could not be read or a report not be stored, with the wording that a user sees.
-/

namespace RegistrySchema

/-- What went wrong with a file or a device. -/
inductive IoError where
  /-- No such file. -/
  | notFound
  /-- A path goes through something that is no directory. -/
  | notADirectory
  /-- A directory stands where a file is wanted. -/
  | isADirectory
  /-- The place is in use by the system. -/
  | busy
  /-- A file name or a path is too long. -/
  | nameTooLong
  /-- The content is no text. -/
  | notText
  /-- A device took nothing of what it was offered. -/
  | nothingTaken
  /-- Any other failure, in its own words. -/
  | other (text : String)
  deriving DecidableEq, Inhabited, Repr

/-- The wording of an error. -/
def IoError.message : IoError → String
  | notFound => "No such file or directory (os error 2)"
  | notADirectory => "Not a directory (os error 20)"
  | isADirectory => "Is a directory (os error 21)"
  | busy => "Device or resource busy (os error 16)"
  | nameTooLong => "File name too long (os error 36)"
  | notText => "stream did not contain valid UTF-8"
  | nothingTaken => "failed to write whole buffer"
  | other text => text

end RegistrySchema
