import RegistrySchema.Pattern.CharSet

/-!
# Patterns

A pattern describes stretches of a text. Marks say at which places of the text a stretch may
begin, and `Pattern.advance` turns them into marks at the places where it may end; a text contains
a stretch if some mark is left when all places were marked at first.

A loop needs no more rounds than there are places: a longer way through a loop has a round that
goes nowhere, which can be left out or repeated.
-/

namespace RegistrySchema

/-- A condition on a place in a text. -/
inductive Look where
  /-- The start of the text. -/
  | start
  /-- The end of the text. -/
  | stop
  /-- The start of a line; with `returns` lines may end in a carriage return. -/
  | lineStart (returns : Bool)
  /-- The end of a line. -/
  | lineStop (returns : Bool)
  /-- A border of a word, or no border of one; with `all` the word may be of any script. -/
  | word (all border : Bool)
  /-- The start of a word. -/
  | wordStart (all : Bool)
  /-- The end of a word. -/
  | wordStop (all : Bool)
  /-- No word before the place. -/
  | noWordBefore (all : Bool)
  /-- No word behind the place. -/
  | noWordAfter (all : Bool)
  deriving DecidableEq, Inhabited, Repr

/-- A place in a text: the characters before and behind it. -/
abbrev Spot := Option Char × Option Char

namespace Look

/-- Whether a character of the basic alphabet can be part of a word. -/
def isWordChar (c : Char) : Bool := c.isAlphanum || c = '_'

/-- Whether there is a word at one side of a place. -/
def isWord (side : Option Char) : Bool := side.any isWordChar

/-- Whether the condition asks for words of all scripts. -/
def asksAllWords : Look → Bool
  | word all _ => all
  | wordStart all => all
  | wordStop all => all
  | noWordBefore all => all
  | noWordAfter all => all
  | _ => false

/-- Whether the condition holds at a place, as far as words of the basic alphabet are
concerned. -/
def holds (look : Look) (spot : Spot) : Bool :=
  let (before, after) := spot
  match look with
  | .start => before.isNone
  | .stop => after.isNone
  | .lineStart false => before.isNone || before = some '\n'
  | .lineStart true =>
    before.isNone || before = some '\n' || (before = some '\r' && after ≠ some '\n')
  | .lineStop false => after.isNone || after = some '\n'
  | .lineStop true =>
    after.isNone || after = some '\r' || (after = some '\n' && before ≠ some '\r')
  | .word _ border => (isWord before != isWord after) == border
  | .wordStart _ => !isWord before && isWord after
  | .wordStop _ => isWord before && !isWord after
  | .noWordBefore _ => !isWord before
  | .noWordAfter _ => !isWord after

end Look

/-- The places of a text, given the character before it. -/
def spots (before : Option Char) : List Char → List Spot
  | [] => [(before, none)]
  | c :: cs => (before, some c) :: spots (some c) cs

/-- A pattern. -/
inductive Pattern where
  /-- The empty stretch. -/
  | empty
  /-- One character out of some ranges. -/
  | one (ranges : Text.Ranges)
  /-- The empty stretch at a place with a property. -/
  | look (look : Look)
  /-- Two stretches, one after the other. -/
  | seq (first second : Pattern)
  /-- One stretch or the other. -/
  | alt (first second : Pattern)
  /-- A number of stretches, at least `least` and at most `most`, if there is a bound. -/
  | loop (least : Nat) (most : Option Nat) (body : Pattern)
  deriving Inhabited

/-- Marks on the places of a text. -/
abbrev Marks := List Bool

namespace Marks

/-- The places that are marked in one or the other way. -/
def merge (a b : Marks) : Marks := List.zipWith (· || ·) a b

/-- Take a step a number of times. -/
def repeated (step : Marks → Marks) : (rounds : Nat) → Marks → Marks
  | 0, marks => marks
  | rounds + 1, marks => if marks.any id then repeated step rounds (step marks) else marks

/-- Take a step up to a number of times, and keep all marks. -/
def spread (step : Marks → Marks) : (rounds : Nat) → Marks → Marks
  | 0, marks => marks
  | rounds + 1, marks =>
    let more := marks.merge (step marks)
    if more = marks then marks else spread step rounds more

end Marks

namespace Pattern

/-- The marks where stretches may end that begin at marks. -/
def advance (spots : List Spot) : Pattern → Marks → Marks
  | empty, marks => marks
  | one ranges, marks =>
    false :: (List.zipWith (fun mark spot => mark && spot.2.any ranges.contain) marks
      spots).dropLast
  | look condition, marks =>
    List.zipWith (fun mark spot => mark && condition.holds spot) marks spots
  | seq first second, marks => second.advance spots (first.advance spots marks)
  | alt first second, marks => (first.advance spots marks).merge (second.advance spots marks)
  | loop least most body, marks =>
    let places := spots.length
    let rounds := match most with
      | none => places
      | some most => min (most - least) places
    Marks.spread (body.advance spots) rounds
      (Marks.repeated (body.advance spots) (min least places) marks)

/-- Whether a text contains a stretch. -/
def occursIn (pattern : Pattern) (cs : List Char) : Bool :=
  let spots := spots none cs
  (pattern.advance spots (spots.map fun _ => true)).any id

/-- The patterns one after the other. -/
def ofSequence : List Pattern → Pattern
  | [] => empty
  | [pattern] => pattern
  | pattern :: others => seq pattern (ofSequence others)

/-- One of the patterns. -/
def ofChoice : List Pattern → Pattern
  | [] => one []
  | [pattern] => pattern
  | pattern :: others => alt pattern (ofChoice others)

/-- Whether a condition in the pattern asks for words of all scripts. -/
def asksAllWords : Pattern → Bool
  | look condition => condition.asksAllWords
  | seq first second => first.asksAllWords || second.asksAllWords
  | alt first second => first.asksAllWords || second.asksAllWords
  | loop _ _ body => body.asksAllWords
  | _ => false

/-! ## Size -/

/-- Bytes taken by a step of a searcher. -/
def stepSize : Nat := 32

/-- Bytes taken by a fork of a searcher. -/
def forkSize : Nat := 40

/-- Bytes that a searcher needs to recognise one character. -/
def charSize : Text.Ranges → Nat
  | [(first, last)] =>
    if first = last then stepSize * (Char.ofNat first).utf8Size
    else if last ≤ 0x7F then stepSize
    else 14 * stepSize
  | ranges =>
    if ranges.all fun run => run.2 ≤ 0x7F then stepSize + 8 * ranges.length
    else 14 * stepSize + 8 * ranges.length

/-- Bytes that a searcher for a pattern needs, in which loops are written out. -/
def size : Pattern → Nat
  | empty => stepSize
  | one ranges => charSize ranges
  | look _ => stepSize
  | seq first second => first.size + second.size
  | alt first second => first.size + second.size + forkSize
  | loop least most body =>
    match most with
    | none => max least 1 * body.size + forkSize
    | some most => least * body.size + (most - least) * (body.size + forkSize) + stepSize

/-- The largest size of a searcher. -/
def maxSize : Nat := 10485760

end Pattern

end RegistrySchema
