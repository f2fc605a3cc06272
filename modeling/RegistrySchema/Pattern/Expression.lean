import RegistrySchema.Pattern.Error
import RegistrySchema.Text.Ranges

/-!
# Written patterns

The tree of a written pattern: each part with the stretch of the text where it stands.
-/

namespace RegistrySchema.Pattern

/-- A switch that a pattern can set for itself. -/
inductive Flag where
  /-- Letters stand for both cases. -/
  | ignoreCase
  /-- Lines have starts and ends. -/
  | lines
  /-- A dot stands for a line feed, too. -/
  | dotAll
  /-- Loops are short, which makes no difference to whether a text contains a stretch. -/
  | shortLoops
  /-- The pattern is about characters and not about bytes. -/
  | characters
  /-- Lines may end in a carriage return. -/
  | returns
  /-- White space and comments stand for nothing. -/
  | ignoreBlanks
  deriving DecidableEq, Inhabited, Repr

/-- Flags with their new values. -/
abbrev Flags := List (Flag × Bool)

/-- The value that flags give to one of them. -/
def Flags.value? (flags : Flags) (flag : Flag) : Option Bool :=
  (flags.find? fun entry => entry.1 = flag).map Prod.snd

/-- A condition as it is written. -/
inductive Assertion where
  | lineStart
  | lineStop
  | textStart
  | textStop
  | word (border : Bool)
  | wordStart
  | wordStop
  | noWordBefore
  | noWordAfter
  deriving DecidableEq, Inhabited, Repr

/-- A class of characters with a letter. -/
inductive LetterClass where
  | digit
  | space
  | word
  deriving DecidableEq, Inhabited, Repr

/-- How two classes are combined. -/
inductive ClassOperator where
  | both
  | without
  | oneOnly
  deriving DecidableEq, Inhabited, Repr

/-- A character as it is written. -/
structure Literal where
  extent : Extent
  char : Char
  /-- Whether it is given by two hexadecimal digits, so that it can stand for a byte. -/
  isByte : Bool := false
  deriving DecidableEq, Inhabited, Repr

/-- A class between brackets, or a part of one. -/
inductive ClassSet where
  | empty (extent : Extent)
  | literal (literal : Literal)
  | range (extent : Extent) (first last : Literal)
  /-- A class with a name, given by its members. -/
  | named (extent : Extent) (members : Text.Ranges) (negated : Bool)
  /-- A class of characters with a property. -/
  | property (extent : Extent) (name : String)
  | letter (extent : Extent) (kind : LetterClass) (negated : Bool)
  | bracketed (extent : Extent) (negated : Bool) (content : ClassSet)
  | union (extent : Extent) (items : List ClassSet)
  | combined (extent : Extent) (operator : ClassOperator) (left right : ClassSet)
  deriving Inhabited

/-- Where a class stands. -/
def ClassSet.extent : ClassSet → Extent
  | empty extent => extent
  | literal c => c.extent
  | range extent _ _ => extent
  | named extent _ _ => extent
  | property extent _ => extent
  | letter extent _ _ => extent
  | bracketed extent _ _ => extent
  | union extent _ => extent
  | combined extent _ _ _ => extent

/-- A written pattern, or a part of one. -/
inductive Expression where
  | empty (extent : Extent)
  | flags (extent : Extent) (flags : Flags)
  | literal (literal : Literal)
  | dot (extent : Extent)
  | assertion (extent : Extent) (assertion : Assertion)
  | property (extent : Extent) (name : String)
  | letter (extent : Extent) (kind : LetterClass) (negated : Bool)
  | bracketed (extent : Extent) (negated : Bool) (content : ClassSet)
  | loop (extent : Extent) (least : Nat) (most : Option Nat) (body : Expression)
  | group (extent : Extent) (flags : Flags) (body : Expression)
  | choice (extent : Extent) (branches : List Expression)
  | sequence (extent : Extent) (parts : List Expression)
  deriving Inhabited

/-- Where an expression stands. -/
def Expression.extent : Expression → Extent
  | empty extent => extent
  | flags extent _ => extent
  | literal c => c.extent
  | dot extent => extent
  | assertion extent _ => extent
  | property extent _ => extent
  | letter extent _ _ => extent
  | bracketed extent _ _ => extent
  | loop extent _ _ _ => extent
  | group extent _ _ => extent
  | choice extent _ => extent
  | sequence extent _ => extent

/-- The sequence of some parts; one part stands for itself. -/
def Expression.ofParts (extent : Extent) : List Expression → Expression
  | [] => .empty extent
  | [part] => part
  | parts => .sequence extent parts

/-- The union of some items; one item stands for itself. -/
def ClassSet.ofItems (extent : Extent) : List ClassSet → ClassSet
  | [] => .empty extent
  | [item] => item
  | items => .union extent items

/-! ## Depth -/

mutual

/-- The first part of a class that lies too deep, if `room` levels are left. -/
def ClassSet.deepPart? (room : Nat) : ClassSet → Option Extent
  | .bracketed extent _ content =>
    if room = 0 then some extent else content.deepPart? (room - 1)
  | .union extent items => if room = 0 then some extent else deepItem? (room - 1) items
  | .combined extent _ left right =>
    if room = 0 then some extent
    else
      match left.deepPart? (room - 1) with
      | some deep => some deep
      | none => right.deepPart? (room - 1)
  | _ => none

/-- The first part of some items that lies too deep. -/
def deepItem? (room : Nat) : List ClassSet → Option Extent
  | [] => none
  | item :: items =>
    match item.deepPart? room with
    | some deep => some deep
    | none => deepItem? room items

end

mutual

/-- The first part of an expression that lies too deep, if `room` levels are left. -/
def Expression.deepPart? (room : Nat) : Expression → Option Extent
  | .bracketed extent _ content =>
    if room = 0 then some extent else content.deepPart? (room - 1)
  | .loop extent _ _ body => if room = 0 then some extent else body.deepPart? (room - 1)
  | .group extent _ body => if room = 0 then some extent else body.deepPart? (room - 1)
  | .choice extent branches => if room = 0 then some extent else deepBranch? (room - 1) branches
  | .sequence extent parts => if room = 0 then some extent else deepBranch? (room - 1) parts
  | _ => none

/-- The first part of some expressions that lies too deep. -/
def deepBranch? (room : Nat) : List Expression → Option Extent
  | [] => none
  | branch :: branches =>
    match branch.deepPart? room with
    | some deep => some deep
    | none => deepBranch? room branches

end

end RegistrySchema.Pattern
