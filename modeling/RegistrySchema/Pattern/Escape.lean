import RegistrySchema.Pattern.Cursor

/-!
# Escapes in patterns

What a backslash and the characters behind it stand for.
-/

namespace RegistrySchema.Pattern.Reading

/-- Characters with a meaning of their own. -/
def isMeta (c : Char) : Bool := "\\.+*?()|[]\x7b\x7d^$#&-~".toList.contains c

/-- Whether a backslash before a character takes its meaning away. -/
def isEscapable (c : Char) : Bool :=
  isMeta c || (c.toNat < 0x80 && !c.isAlphanum && c ≠ '<' && c ≠ '>')

/-- The character that a letter behind a backslash stands for. -/
def controlChar? : Char → Option Char
  | 'a' => some '\x07'
  | 'f' => some '\x0c'
  | 't' => some '\t'
  | 'n' => some '\n'
  | 'r' => some '\r'
  | 'v' => some '\x0b'
  | _ => none

/-- The class that a letter behind a backslash stands for, and whether it is turned round. -/
def letterClass? : Char → Option (LetterClass × Bool)
  | 'd' => some (.digit, false)
  | 's' => some (.space, false)
  | 'w' => some (.word, false)
  | 'D' => some (.digit, true)
  | 'S' => some (.space, true)
  | 'W' => some (.word, true)
  | _ => none

/-- The condition that a character behind a backslash stands for. -/
def assertion? : Char → Option Assertion
  | 'A' => some .textStart
  | 'z' => some .textStop
  | 'b' => some (.word true)
  | 'B' => some (.word false)
  | '<' => some .wordStart
  | '>' => some .wordStop
  | _ => none

/-! ## Characters by their numbers -/

/-- The value of a hexadecimal digit. -/
def hexValue? (c : Char) : Option Nat :=
  if c.isDigit then some (c.toNat - '0'.toNat)
  else if 'a' ≤ c && c ≤ 'f' then some (c.toNat - 'a'.toNat + 10)
  else if 'A' ≤ c && c ≤ 'F' then some (c.toNat - 'A'.toNat + 10)
  else none

/-- The number that hexadecimal digits stand for. -/
def hexNumber (digits : List Char) : Nat :=
  digits.foldl (fun value digit => 16 * value + (hexValue? digit).getD 0) 0

/-- The character with a number. -/
def charOfNumber? (number : Nat) : Option Char :=
  if number.isValidChar then some (Char.ofNat number) else none

/-- A number of hexadecimal digits. -/
def hexDigits : (count : Nat) → (read : List Char) → Reading (List Char)
  | 0, read => return read.reverse
  | count + 1, read => do
    match ← current? with
    | none => fail .escapeUnfinished (.at (← position))
    | some c =>
      if (hexValue? c).isSome then
        let _ ← stepOn
        hexDigits count (c :: read)
      else fail .hexDigit (← charExtent)

/-- What stands between the brace at the cursor and the brace that closes it, or the end. -/
def braced (accept : Char → Bool) (refuse : Flaw) :
    (fuel : Nat) → (read : List Char) → Reading (List Char)
  | 0, read => return read.reverse
  | fuel + 1, read => do
    match ← stepOn with
    | none => return read.reverse
    | some c =>
      if c = '\x7d' then return read.reverse
      else if accept c then braced accept refuse fuel (c :: read)
      else fail refuse (← charExtent)

/-- A character by the number between braces. -/
def bracedChar : Reading Char := do
  let brace ← charExtent
  let digits ← braced (fun c => (hexValue? c).isSome) .hexDigit (← remaining) []
  if (← current?).isNone then fail .escapeUnfinished (← extentFrom brace.start)
  let number ← extentFrom brace.stop
  let _ ← stepOn
  if digits.isEmpty then fail .hexEmpty (← extentFrom brace.start)
  match charOfNumber? (hexNumber digits) with
  | some c => return c
  | none => fail .hexNoCharacter number

/-- A character by its number; the letter behind the backslash says how many digits there are. -/
def numberedChar (start : Position) (letter : Char) : Reading Expression := do
  match ← stepOn with
  | none => fail .escapeUnfinished (.at (← position))
  | some '\x7b' =>
    let c ← bracedChar
    return .literal ⟨← extentFrom start, c, false⟩
  | some _ =>
    let first ← position
    let count := if letter = 'x' then 2 else if letter = 'u' then 4 else 8
    let digits ← hexDigits count []
    match charOfNumber? (hexNumber digits) with
    | some c => return .literal ⟨← extentFrom start, c, letter = 'x'⟩
    | none => fail .hexNoCharacter (← extentFrom first)

/-! ## Properties -/

/-- A class of characters with a property, which has a name of one letter or between braces. -/
def propertyClass (start : Position) : Reading Expression := do
  match ← stepOn with
  | none => fail .escapeUnfinished (.at (← position))
  | some '\x7b' =>
    let name ← braced (fun _ => true) .propertyName (← remaining) []
    if (← current?).isNone then fail .escapeUnfinished (.at (← position))
    let _ ← step
    return .property (← extentFrom start) (String.ofList name)
  | some c =>
    if c = '\\' then fail .propertyName (← charExtent)
    let _ ← stepOn
    return .property (← extentFrom start) c.toString

/-! ## Conditions on words -/

/-- Conditions on words by their names. -/
def wordConditions : List (String × Assertion) :=
  [("start", .wordStart), ("end", .wordStop), ("start-half", .noWordBefore),
    ("end-half", .noWordAfter)]

/-- A condition on words by the name between braces. If no name begins behind the brace, the
brace belongs to something else. -/
def namedCondition? (start : Position) : Reading (Option Assertion) := do
  let before ← get
  let isNameChar (c : Char) : Bool := c.isAlpha || c = '-'
  match ← stepOn with
  | none => fail .wordConditionUnfinished (← extentFrom start)
  | some c =>
    if !isNameChar c then
      set before
      return none
    let first ← position
    let name ← takeWhile isNameChar stepOn (← remaining) []
    if (← current?) ≠ some '\x7d' then
      fail .wordConditionUnclosed (← extentFrom before.position)
    let extent ← extentFrom first
    let _ ← step
    match wordConditions.find? fun entry => entry.1.toList = name with
    | some entry => return some entry.2
    | none => fail .wordConditionUnknown extent

/-! ## Escapes -/

/-- What a backslash at the cursor and the characters behind it stand for. -/
def escape : Reading Expression := do
  let start ← position
  match ← step with
  | none => fail .escapeUnfinished (← extentFrom start)
  | some c =>
    if c.isDigit then fail .backReference ⟨start, (← charExtent).stop⟩
    if c = 'x' || c = 'u' || c = 'U' then return ← numberedChar start c
    if c = 'p' || c = 'P' then return ← propertyClass start
    let _ ← step
    let extent ← extentFrom start
    if let some (kind, negated) := letterClass? c then return .letter extent kind negated
    if isEscapable c then return .literal ⟨extent, c, false⟩
    if let some control := controlChar? c then return .literal ⟨extent, control, false⟩
    match assertion? c with
    | none => fail .escapeUnknown extent
    | some assertion =>
      if c = 'b' && (← current?) = some '\x7b' then
        match ← namedCondition? start with
        | some named => return .assertion (← extentFrom start) named
        | none => return .assertion extent assertion
      else return .assertion extent assertion

end RegistrySchema.Pattern.Reading
