import RegistrySchema.Catalog
import RegistrySchema.Json.Doc
import RegistrySchema.Snapshot.DecodeError

/-!
# Decoders

Decoders take the values of a document in the order of the text, so the first error in the text
is the error of the whole. Values that are read for their content nest only so deep; `depth` is
how many brackets may still be opened. A record is read from an object, whose unknown members
are passed over, or from an array that has the record's fields in their order.
-/

namespace RegistrySchema.Snapshot

open Json (Doc Flaw Key Stop)

/-- Reads a value, given how deep it may nest. -/
abbrev Decoder (α : Type) := (depth : Nat) → Doc → Except DecodeError α

namespace Decoder

/-- How many brackets may be open at once. -/
def maxDepth : Nat := 127

/-- Open a bracket. -/
def enter (depth : Nat) : Except DecodeError Nat :=
  if depth = 0 then .error (.flaw .malformed) else .ok (depth - 1)

/-- Turn a flaw into an error. -/
def refuse : Option Flaw → Except DecodeError Unit
  | none => .ok ()
  | some flaw => .error (.flaw flaw)

/-- A text. -/
def text : Decoder String
  | _, .string (some value) => .ok value
  | _, doc => .error (.ofMismatch doc .text)

/-- A truth value. -/
def boolean : Decoder Bool
  | _, .bool value => .ok value
  | _, doc => .error (.ofMismatch doc .boolean)

/-- An integer of 32 bits. -/
def int32 : Decoder Int
  | _, .number literal =>
    match literal.value? with
    | some (.integer value) =>
      if -2147483648 ≤ value ∧ value ≤ 2147483647 then .ok value else .error (.outOfRange value)
    | _ => .error (.ofMismatch (.number literal) .int32)
  | _, doc => .error (.ofMismatch doc .int32)

/-- Null, or a value of the given kind. -/
def optional {α : Type} (decode : Decoder α) : Decoder (Option α)
  | _, .null => .ok none
  | depth, doc => (decode depth doc).map some

/-- A list of values. -/
def list {α : Type} (decode : Decoder α) : Decoder (List α)
  | depth, .array items stop => do
    let depth ← enter depth
    let values ← items.mapM (decode depth)
    refuse stop.flaw?
    return values
  | _, doc => .error (.ofMismatch doc .sequence)

/-- The text of a key. -/
def keyText : Key → Except DecodeError String
  | .text s => .ok s
  | .unpaired => .error (.flaw .malformed)

/-- The values of an object by their keys; of several values for one key the last counts. -/
def catalog {α : Type} (decode : Decoder α) : Decoder (Catalog String α)
  | depth, .object members stop => do
    let depth ← enter depth
    let table ← members.foldlM (fun table member => do
      let key ← keyText member.1
      let value ← decode depth member.2
      return Catalog.put table key value) Catalog.empty
    refuse stop.flaw?
    return table
  | _, doc => .error (.ofMismatch doc .map)

/-! ## Records -/

/-- A field of a record that is being filled in. -/
structure RecordField (δ : Type) where
  /-- The field's name. -/
  name : String
  /-- Whether a record in the form of an array may end before it. -/
  omissible : Bool
  /-- Whether it is filled in. -/
  given : δ → Bool
  /-- Fill it in. -/
  fill : δ → Decoder δ

/-- A field that is read by a decoder. -/
def RecordField.of {δ α : Type} (name : String) (omissible : Bool) (get : δ → Option α)
    (set : δ → α → δ) (decode : Decoder α) : RecordField δ where
  name
  omissible
  given draft := (get draft).isSome
  fill draft depth doc := (decode depth doc).map (set draft)

variable {δ : Type}

/-- Take in one member of an object. -/
def fillMember (fields : List (RecordField δ)) (depth : Nat) (draft : δ) (member : Key × Doc) :
    Except DecodeError δ := do
  let name ← keyText member.1
  match fields.find? fun field => field.name = name with
  | some field =>
    if field.given draft then .error (.duplicateField name) else field.fill draft depth member.2
  | none => do
    refuse member.2.skipFlaw?
    return draft

/-- Take in the items of an array, given the fields that are left and how many there were. -/
def fillItems (label : String) (size : Nat) (stop : Stop) (depth : Nat) (draft : δ) :
    (count : Nat) → List (RecordField δ) → List Doc → Except DecodeError δ
  | _, [], [] => do
    refuse stop.flaw?
    return draft
  | _, [], _ :: _ => .error (.flaw .malformed)
  | count, field :: fields, item :: items => do
    let draft ← field.fill draft depth item
    fillItems label size stop depth draft (count + 1) fields items
  | count, field :: fields, [] => do
    refuse stop.flaw?
    if field.omissible then fillItems label size stop depth draft (count + 1) fields []
    else .error (.tooShort count label size)

/-- A record, as far as it is filled in. -/
def record (label : String) (fields : List (RecordField δ)) (blank : δ) : Decoder δ
  | depth, .object members stop => do
    let depth ← enter depth
    let draft ← members.foldlM (fillMember fields depth) blank
    refuse stop.flaw?
    return draft
  | depth, .array items stop => do
    let depth ← enter depth
    fillItems label fields.length stop depth blank 0 fields items
  | _, doc => .error (.ofMismatch doc (.record label))

/-- A field that a record needs. -/
def required {α : Type} (name : String) : Option α → Except DecodeError α
  | some value => .ok value
  | none => .error (.missingField name)

end Decoder

end RegistrySchema.Snapshot
