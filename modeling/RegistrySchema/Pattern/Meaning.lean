import RegistrySchema.Pattern.Basic
import RegistrySchema.Pattern.Reader

/-!
# Meaning of written patterns

The pattern that an expression stands for under the flags that hold where it stands. There are no
tables of the letters of all scripts, so classes that need them are refused, and so is a change of
case; a pattern about bytes has them for the basic alphabet, but must not tear a character apart.
-/

namespace RegistrySchema.Pattern

/-- The flags that hold at a place. -/
structure Mode where
  ignoreCase : Bool := false
  lines : Bool := false
  dotAll : Bool := false
  characters : Bool := true
  returns : Bool := false
  deriving DecidableEq, Inhabited, Repr

/-- Set flags. -/
def Mode.apply (mode : Mode) (flags : Flags) : Mode where
  ignoreCase := (flags.value? .ignoreCase).getD mode.ignoreCase
  lines := (flags.value? .lines).getD mode.lines
  dotAll := (flags.value? .dotAll).getD mode.dotAll
  characters := (flags.value? .characters).getD mode.characters
  returns := (flags.value? .returns).getD mode.returns

/-- Refuse a stretch. -/
def refuse {α : Type} (flaw : Flaw) (extent : Extent) : Except Error α :=
  .error (.flaw flaw extent none)

namespace Mode

variable (mode : Mode)

/-! ## Classes -/

/-- Refuse a character that is given by a byte which is no character. -/
def checkByte (c : Literal) : Except Error Unit :=
  if !mode.characters && c.isByte && 0x7F < c.char.toNat then refuse .brokenEncoding c.extent
  else .ok ()

/-- The code point of a character in a class. -/
def classCode (c : Literal) : Except Error Nat := do
  mode.checkByte c
  if !mode.characters && 0x7F < c.char.toNat then refuse .beyondBytes c.extent
  return c.char.toNat

/-- Refuse to change the case of letters without tables. -/
def checkFold (set : CharSet) (extent : Extent) : Except Error Unit :=
  if mode.ignoreCase && mode.characters && !set.folded && !set.ranges.isEmpty then
    refuse .letterCase extent
  else .ok ()

/-- A set with letters in both cases if that is asked for, and turned round if that is. -/
def foldAndNegate (extent : Extent) (negated : Bool) (set : CharSet) : Except Error CharSet := do
  mode.checkFold set extent
  if mode.characters then return if negated then set.complement else set
  let folded := if mode.ignoreCase then set.foldBasic else set
  let result := if negated then folded.byteComplement else folded
  if result.isBasic then return result else refuse .brokenEncoding extent

/-- The members of a class with a letter, for bytes. -/
def letterMembers : LetterClass → List (Nat × Nat)
  | .digit => [('0'.toNat, '9'.toNat)]
  | .space => [(9, 13), (0x20, 0x20)]
  | .word =>
    [('0'.toNat, '9'.toNat), ('A'.toNat, 'Z'.toNat), ('_'.toNat, '_'.toNat),
      ('a'.toNat, 'z'.toNat)]

/-- A class with a letter. -/
def letterSet (extent : Extent) (kind : LetterClass) (negated : Bool) : Except Error CharSet :=
  if mode.characters then refuse .letterClass extent
  else
    let set := CharSet.ofRanges (letterMembers kind)
    if negated then refuse .brokenEncoding extent else .ok set

/-- The name of a property without what does not count in it. -/
def plainName (name : String) : List Char :=
  let lower := name.toList.map Char.toLower
  let bare := (Text.dropLead? "is".toList lower).getD lower
  bare.filter fun c => c ≠ ' ' && c ≠ '_' && c ≠ '-' && c.toNat < 0x80

/-- Names that only a table of values could explain. -/
def valueNames : List String := ["cf", "sc", "lc"]

/-- A class of characters with a property. -/
def propertySet (extent : Extent) (name : String) : Except Error CharSet :=
  if !mode.characters then refuse .beyondBytes extent
  else if valueNames.any fun known => known.toList = plainName name then
    refuse .propertyValueUnknown extent
  else refuse .propertyUnknown extent

/-- What an operator makes of two sets. -/
def combine : ClassOperator → CharSet → CharSet → CharSet
  | .both => CharSet.inter
  | .without => CharSet.difference
  | .oneOnly => CharSet.symmetricDifference

/-- A side of an operator with letters in both cases if that is asked for. -/
def foldSide (extent : Extent) (set : CharSet) : Except Error CharSet := do
  mode.checkFold set extent
  return if mode.ignoreCase && !mode.characters then set.foldBasic else set

mutual

/-- The characters of a class. -/
def classSet : ClassSet → Except Error CharSet
  | .empty _ => .ok .empty
  | .literal c => do
    let code ← mode.classCode c
    return .ofRanges [(code, code)]
  | .range _ first last => do
    let lower ← mode.classCode first
    let upper ← mode.classCode last
    return .ofRanges [(lower, upper)]
  | .named extent members negated => mode.foldAndNegate extent negated (.ofRanges members)
  | .property extent name => mode.propertySet extent name
  | .letter extent kind negated => mode.letterSet extent kind negated
  | .bracketed extent negated content => do
    mode.foldAndNegate extent negated (← classSet content)
  | .union _ items => unionSet .empty items
  | .combined _ operator left right => do
    let leftSet ← classSet left
    let rightSet ← classSet right
    let rightSet ← mode.foldSide right.extent rightSet
    let leftSet ← mode.foldSide left.extent leftSet
    return combine operator leftSet rightSet

/-- The characters of classes, together with those so far. -/
def unionSet (soFar : CharSet) : List ClassSet → Except Error CharSet
  | [] => .ok soFar
  | item :: items => do unionSet (soFar.union (← classSet item)) items

end

/-! ## Expressions -/

/-- The pattern of a character. -/
def literal (c : Literal) : Except Error Pattern := do
  mode.checkByte c
  let set := CharSet.singleton c.char
  mode.checkFold set c.extent
  return .one (if mode.ignoreCase && !mode.characters then set.foldBasic.ranges else set.ranges)

/-- The pattern of a dot. -/
def dot (extent : Extent) : Except Error Pattern :=
  if !mode.characters then refuse .brokenEncoding extent
  else
    let ends := if mode.dotAll then [] else if mode.returns then ['\n', '\r'] else ['\n']
    .ok (.one (CharSet.ofRanges (ends.map fun c => (c.toNat, c.toNat))).complement.ranges)

/-- The condition that an assertion stands for. -/
def look : Assertion → Look
  | .lineStart => if mode.lines then .lineStart mode.returns else .start
  | .lineStop => if mode.lines then .lineStop mode.returns else .stop
  | .textStart => .start
  | .textStop => .stop
  | .word border => .word mode.characters border
  | .wordStart => .wordStart mode.characters
  | .wordStop => .wordStop mode.characters
  | .noWordBefore => .noWordBefore mode.characters
  | .noWordAfter => .noWordAfter mode.characters

end Mode

mutual

/-- The pattern of an expression, and the flags behind it. -/
def Expression.pattern (mode : Mode) : Expression → Except Error (Pattern × Mode)
  | .empty _ => .ok (.empty, mode)
  | .flags _ flags => .ok (.empty, mode.apply flags)
  | .literal c => return (← mode.literal c, mode)
  | .dot extent => return (← mode.dot extent, mode)
  | .assertion _ assertion => .ok (.look (mode.look assertion), mode)
  | .property extent name => return (.one (← mode.propertySet extent name).ranges, mode)
  | .letter extent kind negated => return (.one (← mode.letterSet extent kind negated).ranges, mode)
  | .bracketed extent negated content => do
    let set ← mode.foldAndNegate extent negated (← mode.classSet content)
    return (.one set.ranges, mode)
  | .loop _ least most body => do
    let (pattern, mode) ← body.pattern mode
    return (if most = some 0 then .empty else .loop least most pattern, mode)
  | .group _ flags body => do
    let (pattern, _) ← body.pattern (mode.apply flags)
    return (pattern, mode)
  | .choice _ branches => do
    let (patterns, mode) ← partPatterns mode branches
    return (.ofChoice patterns, mode)
  | .sequence _ parts => do
    let (patterns, mode) ← partPatterns mode parts
    return (.ofSequence patterns, mode)

/-- The patterns of expressions one after the other, and the flags behind them. -/
def partPatterns (mode : Mode) : List Expression → Except Error (List Pattern × Mode)
  | [] => .ok ([], mode)
  | part :: parts => do
    let (pattern, mode) ← part.pattern mode
    let (patterns, mode) ← partPatterns mode parts
    return (pattern :: patterns, mode)

end

/-- The pattern that a text describes. -/
def ofText (text : String) : Except Error Pattern := do
  let expression ← Expression.ofText text
  let (pattern, _) ← expression.pattern {}
  if maxSize < pattern.size then .error (.tooLarge maxSize)
  else if pattern.asksAllWords then .error .unsearchable
  else return pattern

end RegistrySchema.Pattern
