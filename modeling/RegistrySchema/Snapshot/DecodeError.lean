import RegistrySchema.Decimal.Notation
import RegistrySchema.Json.Number
import RegistrySchema.Text.Quoted

/-!
# Errors in a snapshot's document

Why a JSON text is no snapshot: it is no JSON, or a value does not fit its place. The wording names
what was found and what was expected.
-/

namespace RegistrySchema.Snapshot

open Json (Doc Flaw)

/-- What a place expects. -/
inductive Expected where
  | text
  | boolean
  | int32
  | sequence
  | map
  | nothing
  /-- A record with the label that the wording uses. -/
  | record (label : String)
  deriving DecidableEq, Inhabited, Repr

/-- The expectation in words. -/
def Expected.message : Expected → String
  | text => "a string"
  | boolean => "a boolean"
  | int32 => "i32"
  | sequence => "a sequence"
  | map => "a map"
  | nothing => "unit"
  | record label => "struct " ++ label

/-- What stands at a place. -/
inductive Found where
  | null
  | boolean (value : Bool)
  | number (value : Json.Number)
  | text (value : String)
  | sequence
  | map
  deriving DecidableEq, Inhabited, Repr

/-- Floating point numbers have a point from `10 ^ -5` up to `10 ^ 16` and an exponent with its
sign otherwise, and whole ones a zero behind the point. -/
def floatLayout : Decimal.Layout := ⟨16, -5, ".0", "e+", "e-"⟩

/-- A floating point number in words. -/
def floatText (negative : Bool) (magnitude : Decimal.Binary64) : String :=
  (if negative then "-" else "") ++ floatLayout.text (Decimal.shortest magnitude)

/-- What was found in words. -/
def Found.message : Found → String
  | null => "null"
  | boolean value => "boolean `" ++ (if value then "true" else "false") ++ "`"
  | number (.integer value) => "integer `" ++ toString value ++ "`"
  | number (.float negative magnitude) =>
    "floating point `" ++ floatText negative magnitude ++ "`"
  | text value => "string " ++ Text.quoted value
  | sequence => "sequence"
  | map => "map"

/-- Why a text is no snapshot. -/
inductive DecodeError where
  /-- It is no JSON. -/
  | flaw (flaw : Flaw)
  /-- A value of the wrong type. -/
  | mismatch (found : Found) (expected : Expected)
  /-- An integer that does not fit 32 bits. -/
  | outOfRange (value : Int)
  /-- A field for the second time. -/
  | duplicateField (name : String)
  /-- A record without a field that it needs. -/
  | missingField (name : String)
  /-- A record in the form of an array that ends before a field that it needs. -/
  | tooShort (count : Nat) (label : String) (size : Nat)
  /-- A failure of a factory with an unknown name. -/
  | unknownFailure (name : String)
  /-- A value of an enumerated domain that is neither a name nor a name with a serialized form. -/
  | noEnumValue
  deriving DecidableEq, Inhabited, Repr

/-- The wording of an error. -/
def DecodeError.message : DecodeError → String
  | flaw .malformed => "malformed text"
  | flaw .truncated => "unexpected end of text"
  | mismatch found expected =>
    "invalid type: " ++ found.message ++ ", expected " ++ expected.message
  | outOfRange value =>
    "invalid value: " ++ (Found.number (.integer value)).message ++ ", expected "
      ++ Expected.int32.message
  | duplicateField name => "duplicate field `" ++ name ++ "`"
  | missingField name => "missing field `" ++ name ++ "`"
  | tooShort count label size =>
    "invalid length " ++ toString count ++ ", expected " ++ (Expected.record label).message
      ++ " with " ++ toString size ++ " elements"
  | unknownFailure name =>
    "unknown variant `" ++ name ++ "`, expected `type_mismatch` or `access`"
  | noEnumValue => "data did not match any variant of untagged enum RawEnumValue"

/-- The error of a value that does not fit its place. A value that cannot be read is a flaw
first. -/
def DecodeError.ofMismatch (doc : Doc) (expected : Expected) : DecodeError :=
  match doc with
  | .null => .mismatch .null expected
  | .bool value => .mismatch (.boolean value) expected
  | .number text =>
    match text.value? with
    | some value => .mismatch (.number value) expected
    | none => .flaw .malformed
  | .string (some value) => .mismatch (.text value) expected
  | .string none => .flaw .malformed
  | .array _ _ => .mismatch .sequence expected
  | .object _ _ => .mismatch .map expected
  | .broken _ fault => .flaw fault.content

end RegistrySchema.Snapshot
