import RegistrySchema.Report.Line
import RegistrySchema.Report.Writer

/-!
# Reading reports

Each line that is not blank holds one record. A line is refused if it has no tag separator, if
its tag is unknown, if its section comes before that of an earlier line, or if a word among the
properties of a block has no tag; the first of these, on the first refused line, is the error
of the whole text. A payload may be missing, with or without the space after the dash.
-/

namespace RegistrySchema.Report

/-- Why a line is refused. -/
inductive LineFault where
  /-- There is no tag separator. -/
  | noSeparator
  /-- The tag names no section. -/
  | unknownTag (tag : String)
  /-- A record of a section that is over. -/
  | outOfOrder (found current : Section)
  /-- A word that is no pair of a property and a tag. -/
  | noPair (word : String)
  deriving DecidableEq, Inhabited, Repr

/-- The wording of a fault. -/
def LineFault.message : LineFault → String
  | noSeparator => "expected `<TAG> --- <name>`"
  | unknownTag tag => "unknown record tag `" ++ tag ++ "`"
  | outOfOrder found current =>
    found.tag ++ " record after the " ++ current.tag ++ " section"
  | noPair word => "expected `<property>:<tag>`, found `" ++ word ++ "`"

/-- The first line that is refused. -/
structure ReadError where
  /-- Its number. -/
  line : Nat
  /-- What is wrong with it. -/
  fault : LineFault
  deriving DecidableEq, Inhabited, Repr

/-- The wording of a read error. -/
def ReadError.message (err : ReadError) : String :=
  "report line " ++ toString err.line ++ ": " ++ err.fault.message

/-- The name and the payload of a body. A body without a separator is a name, after which a dash
may stand. -/
def splitName (body : List Char) : List Char × List Char :=
  match Text.splitOnce nameSeparator body with
  | some parts => parts
  | none =>
    let trimmed := Text.trimEnd body
    match Text.dropTail? (Text.trimEnd nameSeparator) trimmed with
    | some name => (name, [])
    | none => (trimmed, [])

/-- The items of a list; empty ones do not count. -/
def listItems (payload : List Char) : List (List Char) :=
  (Text.pieces listSeparator (Text.trimEnd payload)).filter fun item => !item.isEmpty

/-- The words of a text; they are separated by single spaces and empty ones do not count. -/
def words (payload : List Char) : List (List Char) :=
  (Text.pieces ' ' payload).filter fun word => !word.isEmpty

/-- A property and its tag. -/
def readPair (word : List Char) : Except LineFault (String × TypeTag) :=
  match Text.splitOnce [propertySeparator] word with
  | some (property, tag) => .ok (String.ofList property, TypeTag.ofText (String.ofList tag))
  | none => .error (.noPair (String.ofList word))

/-- The record of a block. -/
def readBlock (body : List Char) : Except LineFault BlockRecord := do
  let (name, payload) := splitName body
  let properties ← (words payload).mapM readPair
  return ⟨String.ofList name, properties⟩

/-- The record of an enum type. -/
def readEnum (body : List Char) : EnumRecord :=
  let (name, payload) := splitName body
  ⟨String.ofList name, (listItems payload).map String.ofList⟩

/-- The record of an entity. -/
def readEntity (body : List Char) : EntityRecord :=
  match Text.splitOnce nameSeparator body with
  | some (name, source) => ⟨String.ofList name, some ⟨String.ofList (Text.trimEnd source)⟩⟩
  | none => ⟨String.ofList (Text.trimEnd body), none⟩

/-- The record of a class. -/
def readClass (body : List Char) : ClassRecord :=
  let (name, payload) := splitName body
  ⟨⟨String.ofList name⟩, (listItems payload).map fun item => ⟨String.ofList item⟩⟩

/-- The record of a section with a body. -/
def readBody (s : Section) (body : List Char) : Except LineFault Record :=
  match s with
  | .blocks => (readBlock body).map .block
  | .enums => .ok (.enum (readEnum body))
  | .entities => .ok (.entity (readEntity body))
  | .classes => .ok (.lineage (readClass body))

/-- The section of a line and the body after its tag separator. -/
def readTag (text : List Char) : Except LineFault (Section × List Char) :=
  match Text.splitOnce tagSeparator text with
  | none => .error .noSeparator
  | some (tag, body) =>
    match Section.ofTag? (String.ofList tag) with
    | none => .error (.unknownTag (String.ofList tag))
    | some s => .ok (s, body)

/-- The record on a line, given the section that the lines before have reached. -/
def readLine (current : Section) (text : List Char) : Except LineFault Record := do
  let (found, body) ← readTag text
  if found.rank < current.rank then .error (.outOfOrder found current) else readBody found body

/-- The records on lines, given the section that the lines before have reached. -/
def readLines (current : Section) : List Line → Except ReadError (List (Located Record))
  | [] => .ok []
  | line :: lines =>
    match readLine current line.text with
    | .error fault => .error ⟨line.number, fault⟩
    | .ok record => do
      let others ← readLines record.family lines
      return ⟨record, line.span, line.number⟩ :: others

/-- Read a report. -/
def parse (source : String) : Except ReadError Report :=
  (readLines .blocks (Line.written source.toList)).map ofEntries

end RegistrySchema.Report
