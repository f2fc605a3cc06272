/-!
# JSON documents

The tree of a JSON text, also of a text that is not well formed: reading keeps what there is up
to the place where it cannot go on, and says there what is wrong. A flaw may look different to a
reader who wants a value's content and to one who only passes over it, so both views are kept.
-/

namespace RegistrySchema.Json

/-- How a text fails to be JSON. -/
inductive Flaw where
  /-- Something stands where it must not. -/
  | malformed
  /-- The text ends too early. -/
  | truncated
  deriving DecidableEq, Inhabited, Repr

/-- What is wrong at a place. -/
structure Fault where
  /-- The flaw for a reader of the content. -/
  content : Flaw
  /-- The flaw for a reader who passes over the value. -/
  skipping : Flaw
  deriving DecidableEq, Inhabited, Repr

/-- A fault that looks the same to both. -/
def Flaw.fault (flaw : Flaw) : Fault := ⟨flaw, flaw⟩

/-- A number as it is written. -/
structure NumberText where
  /-- Whether it begins with a minus sign. -/
  negative : Bool
  /-- The digits before the point. -/
  whole : List Char
  /-- The digits behind the point, if there is one. -/
  fraction : Option (List Char)
  /-- Whether the exponent is negative, and its digits, if there is one. -/
  exponent : Option (Bool × List Char)
  deriving DecidableEq, Inhabited, Repr

/-- The key of a member. -/
inductive Key where
  /-- A text. -/
  | text (s : String)
  /-- A text with an unpaired surrogate, which has no characters. -/
  | unpaired
  deriving DecidableEq, Inhabited, Repr

/-- How the list of an array's items or an object's members ends. -/
inductive Stop where
  /-- With the closing bracket. -/
  | closed
  /-- Within its last entry. -/
  | unfinished
  /-- At a place where neither an entry nor the bracket stands. -/
  | broken (fault : Fault)
  /-- At a place where a member begins without a key. -/
  | noKey (fault : Fault)
  deriving DecidableEq, Inhabited, Repr

/-- What begins at a place where no value can be read to its end. -/
inductive Opening where
  /-- The text ends there. -/
  | nothing
  | null
  | boolean
  | number
  | text
  /-- No value begins so. -/
  | stray
  deriving DecidableEq, Inhabited, Repr

/-- The tree of a JSON text. -/
inductive Doc where
  | null
  | bool (value : Bool)
  | number (value : NumberText)
  /-- A text, or `none` if it has an unpaired surrogate. -/
  | string (value : Option String)
  | array (items : List Doc) (stop : Stop)
  | object (members : List (Key × Doc)) (stop : Stop)
  /-- No value, and how it begins. -/
  | broken (opening : Opening) (fault : Fault)
  deriving Inhabited

/-- The flaw in the end of a list for a reader who passes over it. -/
def Stop.skipFlaw? : Stop → Option Flaw
  | closed => none
  | unfinished => some .malformed
  | broken fault => some fault.skipping
  | noKey fault => some fault.skipping

/-- The flaw in the end of a list for a reader of the content. -/
def Stop.flaw? : Stop → Option Flaw
  | closed => none
  | unfinished => some .malformed
  | broken fault => some fault.content
  | noKey fault => some fault.content

mutual

/-- The first flaw that stops a reader who passes over a value. -/
def Doc.skipFlaw? : Doc → Option Flaw
  | .null => none
  | .bool _ => none
  | .number _ => none
  | .string _ => none
  | .array items stop => itemsSkipFlaw? stop items
  | .object members stop => membersSkipFlaw? stop members
  | .broken _ fault => some fault.skipping

/-- The first flaw in items, or else in their end. -/
def itemsSkipFlaw? (stop : Stop) : List Doc → Option Flaw
  | [] => stop.skipFlaw?
  | item :: items =>
    match item.skipFlaw? with
    | some flaw => some flaw
    | none => itemsSkipFlaw? stop items

/-- The first flaw in members, or else in their end. -/
def membersSkipFlaw? (stop : Stop) : List (Key × Doc) → Option Flaw
  | [] => stop.skipFlaw?
  | (_, value) :: members =>
    match value.skipFlaw? with
    | some flaw => some flaw
    | none => membersSkipFlaw? stop members

end

end RegistrySchema.Json
