import RegistrySchema.Pattern.Escape

/-!
# Classes between brackets

A class between brackets has characters, ranges and other classes in it, also between brackets of
their own, and operators between them, which bind from the left.
-/

namespace RegistrySchema.Pattern

/-- The classes with names, by their members. -/
def namedClasses : List (String × Text.Ranges) :=
  let digits := ('0'.toNat, '9'.toNat)
  let capitals := ('A'.toNat, 'Z'.toNat)
  let smalls := ('a'.toNat, 'z'.toNat)
  [("alnum", [digits, capitals, smalls]),
    ("alpha", [capitals, smalls]),
    ("ascii", [(0, 0x7F)]),
    ("blank", [(9, 9), (0x20, 0x20)]),
    ("cntrl", [(0, 0x1F), (0x7F, 0x7F)]),
    ("digit", [digits]),
    ("graph", [(0x21, 0x7E)]),
    ("lower", [smalls]),
    ("print", [(0x20, 0x7E)]),
    ("punct", [(0x21, 0x2F), (0x3A, 0x40), (0x5B, 0x60), (0x7B, 0x7E)]),
    ("space", [(9, 13), (0x20, 0x20)]),
    ("upper", [capitals]),
    ("word", [digits, capitals, ('_'.toNat, '_'.toNat), smalls]),
    ("xdigit", [digits, ('A'.toNat, 'F'.toNat), ('a'.toNat, 'f'.toNat)])]

/-- Parts of a class that were read one after the other, the last one first. -/
structure ClassItems where
  extent : Extent
  items : List ClassSet

/-- No parts yet. -/
def ClassItems.none (position : Position) : ClassItems := ⟨.at position, []⟩

/-- One more part. -/
def ClassItems.push (items : ClassItems) (item : ClassSet) : ClassItems where
  extent :=
    ⟨if items.items.isEmpty then item.extent.start else items.extent.start, item.extent.stop⟩
  items := item :: items.items

/-- The union of the parts. -/
def ClassItems.set (items : ClassItems) : ClassSet := .ofItems items.extent items.items.reverse

/-- A class whose opening bracket was read. -/
structure OpenClass where
  /-- Where the bracket stands. -/
  start : Position
  /-- The bracket and what belongs to it. -/
  extent : Extent
  /-- Whether the class is turned round. -/
  negated : Bool
  /-- Characters that stand for themselves only at the start. -/
  items : ClassItems

/-- A class on the left of an operator. -/
abbrev LeftClass := Option (ClassOperator × ClassSet)

/-- The class that an operator makes of its two sides. -/
def LeftClass.combine (left : LeftClass) (right : ClassSet) : ClassSet :=
  match left with
  | none => right
  | some (operator, left) =>
    .combined ⟨left.extent.start, right.extent.stop⟩ operator left right

/-- The operator that is written with a character twice. -/
def classOperator? : Char → Option ClassOperator
  | '&' => some .both
  | '-' => some .without
  | '~' => some .oneOnly
  | _ => none

namespace Reading

/-- The character at the cursor as a part of a class. -/
def classChar (c : Char) : Reading ClassSet := return .literal ⟨← charExtent, c, false⟩

/-- A named class at the head of a text: its members, whether it is turned round and the number of
characters that it takes. -/
def namedClassAt? (cs : List Char) : Option (Text.Ranges × Bool × Nat) := do
  let inner ← Text.dropLead? "[:".toList cs
  let negated := inner.head? = some '^'
  let named := if negated then inner.tail else inner
  let name := named.takeWhile (· ≠ ':')
  let rest ← Text.dropLead? ":]".toList (named.dropWhile (· ≠ ':'))
  let (_, members) ← namedClasses.find? fun entry => entry.1.toList = name
  return (members, negated, cs.length - rest.length)

/-- Move past a number of characters. -/
def stepBy : Nat → Reading Unit
  | 0 => return
  | count + 1 => do
    let _ ← step
    stepBy count

/-- A named class, if one stands at the cursor. -/
def namedClass? : Reading (Option ClassSet) := do
  let cursor ← get
  match namedClassAt? cursor.rest with
  | none => return none
  | some (members, negated, size) =>
    stepBy size
    return some (.named (← extentFrom cursor.position) members negated)

/-- Hyphens at the start of a class. -/
def leadingHyphens (start : Position) : (fuel : Nat) → ClassItems → Reading ClassItems
  | 0, items => return items
  | fuel + 1, items => do
    if (← current?) = some '-' then
      let items := items.push (← classChar '-')
      if (← stepOn).isNone then fail .classUnclosed (.at start)
      leadingHyphens start fuel items
    else return items

/-- The opening bracket of a class at the cursor, and what belongs to it. -/
def openClass : Reading OpenClass := do
  let start ← position
  if (← stepOn).isNone then fail .classUnclosed (← extentFrom start)
  let negated := (← current?) = some '^'
  if negated then
    if (← stepOn).isNone then fail .classUnclosed (← extentFrom start)
  let items ← leadingHyphens start (← remaining) (.none (← position))
  if items.items.isEmpty && (← current?) = some ']' then
    let items := items.push (← classChar ']')
    if (← stepOn).isNone then fail .classUnclosed (← extentFrom start)
    return ⟨start, ← extentFrom start, negated, items⟩
  else return ⟨start, ← extentFrom start, negated, items⟩

/-- A character or an escape in a class. -/
def classPrimitive : Reading Expression := do
  match ← current? with
  | some '\\' => escape
  | some c =>
    let literal : Literal := ⟨← charExtent, c, false⟩
    let _ ← step
    return .literal literal
  | none => fail .classUnclosed (← charExtent)

/-- An expression as a part of a class. -/
def asClassSet : Expression → Reading ClassSet
  | .literal c => return .literal c
  | .letter extent kind negated => return .letter extent kind negated
  | .property extent name => return .property extent name
  | other => fail .classEscape other.extent

/-- An expression as an end of a range. -/
def asBound : Expression → Reading Literal
  | .literal c => return c
  | other => fail .classRangeBound other.extent

/-- A part of a class: a range, or what could be its start. -/
def classRange (opened : Extent) : Reading ClassSet := do
  let first ← classPrimitive
  skip
  let some c ← current? | fail .classUnclosed opened
  let ahead ← nextSolid?
  if c ≠ '-' || ahead = some ']' || ahead = some '-' then return ← asClassSet first
  if (← stepOn).isNone then fail .classUnclosed opened
  let last ← classPrimitive
  let extent : Extent := ⟨first.extent.start, last.extent.stop⟩
  let lower ← asBound first
  let upper ← asBound last
  if upper.char < lower.char then fail .classRangeReversed extent
  return .range extent lower upper

/-- The rest of a class behind its opening bracket, given the left side of an operator and the
parts behind it. -/
def classRest (opened : OpenClass) (left : LeftClass) (items : ClassItems) :
    (fuel : Nat) → Reading ClassSet
  | 0 => fail .classUnclosed opened.extent
  | fuel + 1 => do
    skip
    let some c ← current? | fail .classUnclosed opened.extent
    if c = '[' then
      match ← namedClass? with
      | some item => classRest opened left (items.push item) fuel
      | none =>
        let inner ← openClass
        let item ← classRest inner none inner.items fuel
        classRest opened left (items.push item) fuel
    else if c = ']' then
      let _ ← step
      return .bracketed (← extentFrom opened.start) opened.negated (left.combine items.set)
    else
      match (if (← next?) = some c then classOperator? c else none) with
      | some operator =>
        stepBy 2
        let left := some (operator, left.combine items.set)
        classRest opened left (.none (← position)) fuel
      | none =>
        let item ← classRange opened.extent
        classRest opened left (items.push item) fuel

/-- A class between brackets at the cursor. -/
def bracketClass : Reading ClassSet := do
  let opened ← openClass
  classRest opened none opened.items ((← remaining) + 1)

end Reading

end RegistrySchema.Pattern
