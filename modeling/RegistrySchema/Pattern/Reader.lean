import RegistrySchema.Pattern.Bracket
import RegistrySchema.Text.Letter

/-!
# Reading patterns

A pattern is a choice of sequences. Loops bind to the one part before them, and groups set flags
for their inside and give names to it, which have to differ.
-/

namespace RegistrySchema.Pattern.Reading

/-! ## Flags -/

/-- The flag of a letter. -/
def flag? : Char → Option Flag
  | 'i' => some .ignoreCase
  | 'm' => some .lines
  | 's' => some .dotAll
  | 'U' => some .shortLoops
  | 'u' => some .characters
  | 'R' => some .returns
  | 'x' => some .ignoreBlanks
  | _ => none

/-- Flags as they are written; `none` is the sign that turns the flags behind it off. -/
abbrev WrittenFlags := List (Option Flag × Extent)

/-- The values that written flags give. -/
def flagValues (value : Bool) : WrittenFlags → Flags
  | [] => []
  | (none, _) :: others => flagValues false others
  | (some flag, _) :: others => (flag, value) :: flagValues value others

/-- Written flags up to a colon or a closing parenthesis, given those so far, the last one
first. -/
def writtenFlags (read : WrittenFlags) : (fuel : Nat) → Reading WrittenFlags
  | 0 => do fail .flagMissing (.at (← position))
  | fuel + 1 => do
    let some c ← current? | fail .flagMissing (.at (← position))
    if c = ':' || c = ')' then
      match read.head? with
      | some (none, extent) => fail .flagNegationDangling extent
      | _ => return read.reverse
    else
      let extent ← charExtent
      let item ← if c = '-' then pure none else
        match flag? c with
        | some flag => pure (some flag)
        | none => fail .flagUnknown extent
      match read.find? fun entry => entry.1 = item with
      | some former =>
        fail (if item.isNone then .flagNegationRepeated else .flagRepeated) extent former.2
      | none =>
        if (← step).isNone then fail .flagMissing (.at (← position))
        writtenFlags ((item, extent) :: read) fuel

/-! ## Groups -/

/-- Whether a character can be part of a name. -/
def isNameChar (first : Bool) (c : Char) : Bool :=
  c = '_' || Text.isLetter c
    || (!first && (c = '.' || c = '[' || c = ']' || Text.isNumber c))

/-- The characters of a name. -/
def nameChars (first : Bool) (read : List Char) : (fuel : Nat) → Reading (List Char)
  | 0 => return read.reverse
  | fuel + 1 => do
    match ← current? with
    | none => return read.reverse
    | some c =>
      if c = '>' then return read.reverse
      else if isNameChar first c then
        let _ ← step
        nameChars false (c :: read) fuel
      else fail .nameCharacter (← charExtent)

/-- The name of a group, which no group before has. -/
def groupName : Reading Unit := do
  let start ← position
  let name ← nameChars true [] (← remaining)
  let extent ← extentFrom start
  if (← current?).isNone then fail .nameUnclosed (.at (← position))
  let _ ← step
  if name.isEmpty then fail .nameEmpty (.at start)
  let name := String.ofList name
  match (← get).names.find? fun entry => entry.1 = name with
  | some former => fail .nameRepeated extent former.2
  | none => modify fun cursor => { cursor with names := (name, extent) :: cursor.names }

/-- What an opening parenthesis begins. -/
inductive Opening where
  /-- Only flags for what follows. -/
  | flags (extent : Extent) (flags : Flags)
  /-- A group with flags of its own. -/
  | group (opened : Extent) (flags : Flags)

/-- Texts behind a parenthesis that ask what stands around a place. -/
def lookAroundSigns : List String := ["?=", "?!", "?<=", "?<!"]

/-- Refuse a condition on what stands around a place. -/
def refuseLookAround (start : Position) : List String → Reading Unit
  | [] => return
  | sign :: signs => do
    if ← takeIf sign then fail .lookAround (← extentFrom start)
    refuseLookAround start signs

/-- An opening parenthesis at the cursor and what belongs to it. -/
def opening : Reading Opening := do
  let opened ← charExtent
  let _ ← stepOn
  refuseLookAround opened.start lookAroundSigns
  let inner ← position
  if (← takeIf "?P<") || (← takeIf "?<") then
    groupName
    return .group opened []
  else if ← takeIf "?" then
    if (← current?).isNone then fail .groupUnclosed opened
    let written ← writtenFlags [] (← remaining)
    let isClosed := (← current?) = some ')'
    let _ ← step
    let flags := flagValues true written
    if !isClosed then return .group opened flags
    if written.isEmpty then fail .operandMissing (.at inner)
    return .flags (← extentFrom opened.start) flags
  else return .group opened []

/-! ## Loops -/

/-- The part that a loop belongs to, and the parts before it. -/
def operand (parts : List Expression) : Reading (Expression × List Expression) := do
  match parts with
  | [] => fail .operandMissing (.at (← position))
  | .empty _ :: _ => fail .operandMissing (.at (← position))
  | .flags _ _ :: _ => fail .operandMissing (.at (← position))
  | part :: parts => return (part, parts)

/-- A loop with a sign of one character at the cursor. -/
def signedLoop (least : Nat) (most : Option Nat) (parts : List Expression) :
    Reading (List Expression) := do
  let (body, parts) ← operand parts
  if (← step) = some '?' then
    let _ ← step
  return .loop (← extentFrom body.extent.start) least most body :: parts

/-- The largest number in a loop. -/
def maxCount : Nat := 4294967295

/-- A number of rounds. -/
def count : Reading (Except Error Nat) := do
  let _ ← takeWhile Text.isBlank step (← remaining) []
  let start ← position
  let digits ← takeWhile Char.isDigit stepOn (← remaining) []
  let extent ← extentFrom start
  let _ ← takeWhile Text.isBlank stepOn (← remaining) []
  let value := digits.foldl (fun value digit => 10 * value + (digit.toNat - '0'.toNat)) 0
  return if digits.isEmpty then .error (.flaw .countMissing extent none)
    else if maxCount < value then .error (.flaw .decimalTooLarge extent none)
    else .ok value

/-- The bounds of a loop behind the brace at the cursor. -/
def bounds (start : Position) : Reading (Nat × Option Nat) := do
  let unclosed : Reading (Nat × Option Nat) := do fail .countUnclosed (← extentFrom start)
  if (← stepOn).isNone then return ← unclosed
  let least ← count
  match ← current? with
  | none => unclosed
  | some ',' =>
    match ← stepOn with
    | none => unclosed
    | some '\x7d' => return (← settle least, none)
    | some _ =>
      let least ← settle least
      return (least, some (← settle (← count)))
  | some _ =>
    let least ← settle least
    return (least, some least)

/-- A loop with bounds between braces at the cursor. -/
def boundedLoop (parts : List Expression) : Reading (List Expression) := do
  let start ← position
  let (body, parts) ← operand parts
  let (least, most) ← bounds start
  if (← current?) ≠ some '\x7d' then fail .countUnclosed (← extentFrom start)
  if (← stepOn) = some '?' then
    let _ ← step
  if most.any (· < least) then fail .countReversed (← extentFrom start)
  return .loop (← extentFrom body.extent.start) least most body :: parts

/-! ## Choices -/

/-- A part that is no group and no loop. -/
def primitive (c : Char) : Reading Expression := do
  let extent ← charExtent
  match c with
  | '\\' => escape
  | '[' =>
    match ← bracketClass with
    | .bracketed extent negated content => return .bracketed extent negated content
    | other => return .bracketed other.extent false other
  | _ =>
    let _ ← step
    match c with
    | '.' => return .dot extent
    | '^' => return .assertion extent .lineStart
    | '$' => return .assertion extent .lineStop
    | _ => return .literal ⟨extent, c, false⟩

/-- What was read of a choice: its branches so far and the parts of the last one, each with the
last one first. -/
structure OpenChoice where
  /-- Where the choice starts. -/
  origin : Position
  branches : List Expression
  /-- Where the last branch starts. -/
  start : Position
  parts : List Expression

/-- A choice at its start. -/
def OpenChoice.at (position : Position) : OpenChoice := ⟨position, [], position, []⟩

/-- The last branch of a choice, up to the cursor. -/
def OpenChoice.branch (choice : OpenChoice) : Reading Expression :=
  return .ofParts (← extentFrom choice.start) choice.parts.reverse

/-- A choice that ends at the cursor. -/
def OpenChoice.close (choice : OpenChoice) : Reading Expression := do
  let last ← choice.branch
  if choice.branches.isEmpty then return last
  return .choice (← extentFrom choice.origin) (last :: choice.branches).reverse

/-- Ignore blanks from now on, or do not. -/
def ignoreBlanks (value : Bool) : Reading Unit :=
  modify fun cursor => { cursor with ignoring := value }

/-- The rest of a choice, up to the end or to the parenthesis that closes the group around it. -/
def choiceRest (group : Option Extent) (choice : OpenChoice) : (fuel : Nat) → Reading Expression
  | 0 => fail .groupUnclosed (group.getD (.at choice.start))
  | fuel + 1 => do
    let next (parts : List Expression) : Reading Expression :=
      choiceRest group { choice with parts } fuel
    skip
    match ← current? with
    | none =>
      match group with
      | some opened => fail .groupUnclosed opened
      | none => choice.close
    | some '(' =>
      let ignoring := (← get).ignoring
      match ← opening with
      | .flags extent flags =>
        ignoreBlanks ((flags.value? .ignoreBlanks).getD ignoring)
        next (.flags extent flags :: choice.parts)
      | .group opened flags =>
        ignoreBlanks ((flags.value? .ignoreBlanks).getD ignoring)
        let body ← choiceRest (some opened) (.at (← position)) fuel
        ignoreBlanks ignoring
        next (.group (← extentFrom opened.start) flags body :: choice.parts)
    | some ')' =>
      if group.isNone then fail .groupUnopened (← charExtent)
      let body ← choice.close
      let _ ← step
      return body
    | some '|' =>
      let branch ← choice.branch
      let _ ← step
      choiceRest group
        { choice with branches := branch :: choice.branches, start := ← position, parts := [] } fuel
    | some '?' => next (← signedLoop 0 (some 1) choice.parts)
    | some '*' => next (← signedLoop 0 none choice.parts)
    | some '+' => next (← signedLoop 1 none choice.parts)
    | some '\x7b' => next (← boundedLoop choice.parts)
    | some c => next ((← primitive c) :: choice.parts)

/-- A whole pattern, which must not nest too deep. -/
def whole : Reading Expression := do
  let expression ← choiceRest none (.at (← position)) ((← remaining) + 1)
  match expression.deepPart? maxDepth with
  | some extent => fail .tooDeep extent
  | none => return expression

end RegistrySchema.Pattern.Reading

namespace RegistrySchema.Pattern

/-- The written pattern in a text. -/
def Expression.ofText (text : String) : Except Error Expression :=
  (·.1) <$> Reading.whole.run { rest := text.toList }

end RegistrySchema.Pattern
