import RegistrySchema.Pattern.Expression
import RegistrySchema.Text.Blank
import RegistrySchema.Text.Split

/-!
# Cursors

A cursor stands in a written pattern. Reading moves it on and may fail. If blanks are ignored,
white space and comments, which reach from a number sign to the end of the line, stand for
nothing.
-/

namespace RegistrySchema.Pattern

/-- A place in a written pattern and what was learnt on the way. -/
structure Cursor where
  /-- The text that is left. -/
  rest : List Char
  /-- Where it starts. -/
  position : Position := .first
  /-- Whether blanks are ignored. -/
  ignoring : Bool := false
  /-- The names of groups, and where they stand. -/
  names : List (String × Extent) := []
  deriving Inhabited

/-- An activity that moves a cursor on. -/
abbrev Reading := StateT Cursor (Except Error)

/-- The text behind white space and comments. -/
def skipBlanks (inComment : Bool) (position : Position) : List Char → List Char × Position
  | [] => ([], position)
  | c :: cs =>
    if inComment then skipBlanks (c ≠ '\n') (position.after c) cs
    else if Text.isBlank c then skipBlanks false (position.after c) cs
    else if c = '#' then skipBlanks true (position.after c) cs
    else (c :: cs, position)

/-- The first character behind white space and at most one number sign, if there is one. -/
def firstSolid? (signSeen : Bool) : List Char → Option Char
  | [] => none
  | c :: cs =>
    if Text.isBlank c then firstSolid? signSeen cs
    else if c = '#' && !signSeen then firstSolid? true cs
    else some c

namespace Reading

/-- Give up. -/
def fail {α : Type} (flaw : Flaw) (extent : Extent) (former : Option Extent := none) :
    Reading α :=
  throw (.flaw flaw extent former)

/-- The character at the cursor. -/
def current? : Reading (Option Char) := return (← get).rest.head?

/-- The character behind the one at the cursor. -/
def next? : Reading (Option Char) := return (← get).rest.tail.head?

/-- The next character behind the one at the cursor that does not stand for nothing. -/
def nextSolid? : Reading (Option Char) := do
  let cursor ← get
  let after := cursor.rest.tail
  return if cursor.ignoring then (firstSolid? false after).or after.head? else after.head?

/-- Where the cursor stands. -/
def position : Reading Position := return (← get).position

/-- The stretch of the character at the cursor. -/
def charExtent : Reading Extent := do
  let cursor ← get
  return ⟨cursor.position, (cursor.rest.head?.map cursor.position.after).getD cursor.position⟩

/-- The stretch from a place to the cursor. -/
def extentFrom (start : Position) : Reading Extent := return ⟨start, ← position⟩

/-- Move past a character, and answer with the next one. -/
def step : Reading (Option Char) :=
  modifyGet fun cursor =>
    match cursor.rest with
    | [] => (none, cursor)
    | c :: rest => (rest.head?, { cursor with rest, position := cursor.position.after c })

/-- Move past what stands for nothing. -/
def skip : Reading Unit :=
  modify fun cursor =>
    if cursor.ignoring then
      let (rest, position) := skipBlanks false cursor.position cursor.rest
      { cursor with rest, position }
    else cursor

/-- Move past a character and what stands for nothing, and answer with the next character. -/
def stepOn : Reading (Option Char) := do
  let _ ← step
  skip
  current?

/-- Move past a text if it stands at the cursor. -/
def takeIf (lead : String) : Reading Bool :=
  modifyGet fun cursor =>
    match Text.dropLead? lead.toList cursor.rest with
    | none => (false, cursor)
    | some rest =>
      (true, { cursor with rest, position := lead.toList.foldl Position.after cursor.position })

/-- Move past characters with a property, each with `move`, and answer with them. -/
def takeWhile (accept : Char → Bool) (move : Reading (Option Char)) :
    (fuel : Nat) → (taken : List Char) → Reading (List Char)
  | 0, taken => return taken.reverse
  | fuel + 1, taken => do
    match ← current? with
    | none => return taken.reverse
    | some c =>
      if accept c then
        let _ ← move
        takeWhile accept move fuel (c :: taken)
      else return taken.reverse

/-- Number of characters that are left. -/
def remaining : Reading Nat := return (← get).rest.length

/-- The result of what was read. -/
def settle {α : Type} (result : Except Error α) : Reading α := fun cursor => do
  return (← result, cursor)

end Reading

end RegistrySchema.Pattern
