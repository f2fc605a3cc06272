import RegistrySchema.Json.Reader
import RegistrySchema.Snapshot.Declared
import RegistrySchema.Snapshot.Decoder

/-!
# Decoding snapshots

The fields of each kind of record in a snapshot's document, which of them may be left out, and
what they stand for then.
-/

namespace RegistrySchema.Snapshot.Decode

open Decoder
open Json (Doc Key)

/-- An identifier. -/
def identifier : Decoder Identifier
  | depth, doc => (text depth doc).map Identifier.parse

/-! ## Enumerated values -/

mutual

/-- The first flaw of a value all of which is read for its content. -/
def contentFlaw? (depth : Nat) : Doc → Option Json.Flaw
  | .null => none
  | .bool _ => none
  | .number literal => if literal.value?.isSome then none else some .malformed
  | .string value => if value.isSome then none else some .malformed
  | .array items stop =>
    if depth = 0 then some .malformed else itemsContentFlaw? (depth - 1) stop items
  | .object members stop =>
    if depth = 0 then some .malformed else membersContentFlaw? (depth - 1) stop members
  | .broken _ fault => some fault.content

/-- The first flaw in items, or else in their end. -/
def itemsContentFlaw? (depth : Nat) (stop : Json.Stop) : List Doc → Option Json.Flaw
  | [] => stop.flaw?
  | item :: items =>
    match contentFlaw? depth item with
    | some flaw => some flaw
    | none => itemsContentFlaw? depth stop items

/-- The first flaw in members, or else in their end. -/
def membersContentFlaw? (depth : Nat) (stop : Json.Stop) : List (Key × Doc) → Option Json.Flaw
  | [] => stop.flaw?
  | (.unpaired, _) :: _ => some .malformed
  | (.text _, value) :: members =>
    match contentFlaw? depth value with
    | some flaw => some flaw
    | none => membersContentFlaw? depth stop members

end

/-- The text under a key that occurs once. -/
def onlyText? (key : String) (members : List (Key × Doc)) : Option String :=
  match members.filter fun member => member.1 = .text key with
  | [(_, .string value)] => value
  | _ => none

/-- A constant: a name, or an object with a name and a serialized form. -/
def enumValue : Decoder EnumValue
  | depth, doc =>
    match contentFlaw? depth doc with
    | some flaw => .error (.flaw flaw)
    | none =>
      match doc with
      | .string (some name) => .ok ⟨name, none⟩
      | .object members _ =>
        match onlyText? "name" members, onlyText? "id" members with
        | some name, some serialized => .ok ⟨name, some serialized⟩
        | _, _ => .error .noEnumValue
      | _ => .error .noEnumValue

/-! ## Properties -/

/-- A domain that is being filled in. -/
structure DomainDraft where
  kind : Option String := none
  min : Option Int := none
  max : Option Int := none
  key : Option (Option String) := none
  category : Option String := none
  values : Option (List EnumValue) := none

/-- The fields of a domain. -/
def domainFields : List (RecordField DomainDraft) :=
  [.of "kind" false DomainDraft.kind (fun d v => { d with kind := some v }) text,
    .of "min" true DomainDraft.min (fun d v => { d with min := some v }) int32,
    .of "max" true DomainDraft.max (fun d v => { d with max := some v }) int32,
    .of "key" false DomainDraft.key (fun d v => { d with key := some v }) (optional text),
    .of "category" true DomainDraft.category (fun d v => { d with category := some v }) text,
    .of "values" true DomainDraft.values (fun d v => { d with values := some v })
      (list enumValue)]

/-- The domain of a kind; the other fields matter only to the kind that uses them. -/
def DomainDraft.finish (draft : DomainDraft) : Except DecodeError Domain := do
  let kind ← required "kind" draft.kind
  if kind = "int" then return .intRange (draft.min.getD 0) (draft.max.getD 0)
  else if kind = "boolean" then return .boolean
  else if kind = "enum" then
    return .enumeration
      ⟨draft.key.getD none, draft.category.getD "", draft.values.getD []⟩
  else return .unclassified kind

/-- A domain. -/
def domain : Decoder Domain
  | depth, doc => do (← record "RawDomain" domainFields {} depth doc).finish

/-- A property that is being filled in. -/
structure PropertyDraft where
  name : Option String := none
  domain : Option Domain := none

/-- The fields of a property. -/
def propertyFields : List (RecordField PropertyDraft) :=
  [.of "name" false PropertyDraft.name (fun d v => { d with name := some v }) text,
    .of "domain" false PropertyDraft.domain (fun d v => { d with domain := some v }) domain]

/-- A property. -/
def property : Decoder Property
  | depth, doc => do
    let draft ← record "RawProperty" propertyFields {} depth doc
    return ⟨← required "name" draft.name, ← required "domain" draft.domain⟩

/-! ## Blocks -/

/-- A block kind that is being filled in. -/
structure BlockDraft where
  id : Option Identifier := none
  properties : Option (List Property) := none
  inaccessible : Option Bool := none

/-- The fields of a block kind. -/
def blockFields : List (RecordField BlockDraft) :=
  [.of "id" false BlockDraft.id (fun d v => { d with id := some v }) identifier,
    .of "properties" true BlockDraft.properties (fun d v => { d with properties := some v })
      (list property),
    .of "inaccessible" true BlockDraft.inaccessible (fun d v => { d with inaccessible := some v })
      boolean]

/-- A block kind. -/
def block : Decoder DeclaredBlock
  | depth, doc => do
    let draft ← record "RawBlock" blockFields {} depth doc
    return ⟨← required "id" draft.id, draft.properties.getD [], draft.inaccessible.getD false⟩

/-! ## Entities -/

/-- A failure by its name. -/
def failureOfName (name : String) : Except DecodeError SpawnFailure :=
  if name = "type_mismatch" then .ok .typeMismatch
  else if name = "access" then .ok .access
  else .error (.unknownFailure name)

/-- A failure: its name, or an object with null under its name. Behind the null only the closing
bracket may stand, so a comma is out of place there whatever follows it, and at the start all but
a name, null and the object are out of place. -/
def failure : Decoder SpawnFailure
  | _, .string (some name) => failureOfName name
  | depth, .object members stop => do
    let _ ← enter depth
    match members with
    | [] =>
      refuse stop.flaw?
      .error (.flaw .malformed)
    | (key, value) :: others =>
      let found ← failureOfName (← keyText key)
      match value, others, stop with
      | .null, [], .closed => return found
      | .null, [], .broken fault => .error (.flaw fault.content)
      | .null, _, _ => .error (.flaw .malformed)
      | doc, _, _ => .error (.ofMismatch doc .nothing)
  | _, .broken .nothing fault => .error (.flaw fault.content)
  | _, .broken .null fault => .error (.flaw fault.content)
  | _, .broken .text fault => .error (.flaw fault.content)
  | _, _ => .error (.flaw .malformed)

/-- An entity kind that is being filled in. -/
structure EntityDraft where
  id : Option Identifier := none
  className : Option (Option String) := none
  failure : Option (Option SpawnFailure) := none
  inaccessible : Option Bool := none

/-- The fields of an entity kind. -/
def entityFields : List (RecordField EntityDraft) :=
  [.of "id" false EntityDraft.id (fun d v => { d with id := some v }) identifier,
    .of "class" false EntityDraft.className (fun d v => { d with className := some v })
      (optional text),
    .of "error" false EntityDraft.failure (fun d v => { d with failure := some v })
      (optional failure),
    .of "inaccessible" true EntityDraft.inaccessible
      (fun d v => { d with inaccessible := some v }) boolean]

/-- An entity kind. -/
def entity : Decoder DeclaredEntity
  | depth, doc => do
    let draft ← record "RawEntity" entityFields {} depth doc
    return ⟨← required "id" draft.id, draft.className.getD none, draft.failure.getD none,
      draft.inaccessible.getD false⟩

/-! ## Classes -/

/-- A class that is being filled in. -/
structure ClassDraft where
  superclass : Option (Option String) := none
  interfaces : Option (List String) := none

/-- The fields of a class. -/
def classFields : List (RecordField ClassDraft) :=
  [.of "superclass" false ClassDraft.superclass (fun d v => { d with superclass := some v })
      (optional text),
    .of "interfaces" true ClassDraft.interfaces (fun d v => { d with interfaces := some v })
      (list text)]

/-- A class. -/
def class_ : Decoder DeclaredClass
  | depth, doc => do
    let draft ← record "RawClass" classFields {} depth doc
    return ⟨draft.superclass.getD none, draft.interfaces.getD []⟩

/-! ## Snapshots -/

/-- A snapshot that is being filled in. -/
structure SnapshotDraft where
  blocks : Option (List DeclaredBlock) := none
  entities : Option (List DeclaredEntity) := none
  classes : Option (Catalog String DeclaredClass) := none
  root : Option String := none

/-- The fields of a snapshot. -/
def snapshotFields : List (RecordField SnapshotDraft) :=
  [.of "blocks" true SnapshotDraft.blocks (fun d v => { d with blocks := some v }) (list block),
    .of "entities" true SnapshotDraft.entities (fun d v => { d with entities := some v })
      (list entity),
    .of "classes" true SnapshotDraft.classes (fun d v => { d with classes := some v })
      (catalog class_),
    .of "root" true SnapshotDraft.root (fun d v => { d with root := some v }) text]

/-- A snapshot. -/
def declarations : Decoder Declarations
  | depth, doc => do
    let draft ← record "RawSnapshot" snapshotFields {} depth doc
    return ⟨draft.blocks.getD [], draft.entities.getD [], draft.classes.getD Catalog.empty,
      draft.root.getD defaultRoot⟩

/-- The declarations in a document. Nothing may follow its value. -/
def document (document : Json.Document) : Except DecodeError Declarations := do
  let declared ← declarations maxDepth document.root
  if document.trailing then .error (.flaw .malformed) else return declared

end RegistrySchema.Snapshot.Decode
