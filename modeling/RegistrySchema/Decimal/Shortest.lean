import RegistrySchema.Decimal.Binary64

/-!
# Shortest decimals

The decimal with the fewest digits that is read back as a given binary number, and of those the
nearest to it. The numbers that round to it form an interval, which includes its ends exactly if
the mantissa is even. For one digit, two digits and so on the two neighbours of the number on
the decimal grid are tried, until one of them is in the interval.
-/

namespace RegistrySchema.Decimal

/-- The number `digits * 10 ^ exponent`. -/
structure Scientific where
  digits : Nat
  exponent : Int
  deriving DecidableEq, Inhabited, Repr

namespace Shortest

/-- The value, the lower and the upper end of the interval as numerators over one denominator. -/
structure Interval where
  value : Nat
  lower : Nat
  upper : Nat
  denominator : Nat
  /-- Whether the ends belong to it. -/
  closed : Bool

/-- The numbers that round to a given one. Below a power of two the numbers lie twice as close. -/
def interval (x : Binary64) : Interval :=
  let narrow :=
    x.mantissa = Nat.pow 2 (Binary64.precision - 1) && decide (Binary64.minExponent < x.exponent)
  let scale (n : Nat) : Nat :=
    if 0 ≤ x.exponent then n * Nat.pow 2 x.exponent.toNat else n
  { value := scale (4 * x.mantissa)
    lower := scale (4 * x.mantissa - if narrow then 1 else 2)
    upper := scale (4 * x.mantissa + 2)
    denominator := if 0 ≤ x.exponent then 4 else 4 * Nat.pow 2 (-x.exponent).toNat
    closed := x.mantissa % 2 = 0 }

/-- A decimal as numerator and denominator. -/
def ratio (candidate : Scientific) : Nat × Nat :=
  if 0 ≤ candidate.exponent then (candidate.digits * Nat.pow 10 candidate.exponent.toNat, 1)
  else (candidate.digits, Nat.pow 10 (-candidate.exponent).toNat)

/-- Whether a decimal lies in an interval. -/
def Interval.contains (range : Interval) (candidate : Scientific) : Bool :=
  let (n, d) := ratio candidate
  let here := n * range.denominator
  if range.closed then
    decide (range.lower * d ≤ here) && decide (here ≤ range.upper * d)
  else decide (range.lower * d < here) && decide (here < range.upper * d)

/-- The nearer of the neighbours on the grid of `10 ^ exponent`, of those that are in the
interval. -/
def onGrid? (range : Interval) (exponent : Int) : Option Scientific :=
  let (num, den) :=
    if 0 ≤ exponent then (range.value, range.denominator * Nat.pow 10 exponent.toNat)
    else (range.value * Nat.pow 10 (-exponent).toNat, range.denominator)
  let below : Scientific := ⟨num / den, exponent⟩
  let above : Scientific := ⟨num / den + 1, exponent⟩
  let nearest : Scientific := ⟨Binary64.roundHalfEven num den, exponent⟩
  if range.contains nearest then some nearest
  else if range.contains below then some below
  else if range.contains above then some above
  else none

/-- The position of the first decimal digit of `num / den`: `10 ^ position` is at most the
quotient, and the quotient is less than ten times as much. -/
def leadingPosition (num den : Nat) : Int :=
  let whole := num / den
  if 0 < whole then ((Nat.toDigits 10 whole).length : Int) - 1
  else -(zeros num den den : Int)
where
  /-- How often a quotient below one has to be multiplied by ten to reach one. -/
  zeros (num den : Nat) : Nat → Nat
    | 0 => 0
    | fuel + 1 => if den ≤ num then 0 else zeros (num * 10) den fuel + 1

/-- Drop the zeros at the end of the digits. -/
def stripZeros : Nat → Scientific → Scientific
  | 0, x => x
  | fuel + 1, x =>
    if x.digits % 10 = 0 && x.digits != 0 then stripZeros fuel ⟨x.digits / 10, x.exponent + 1⟩
    else x

/-- Try grids from coarse to fine. -/
def search (range : Interval) (position : Int) : Nat → Nat → Scientific
  | 0, places => (onGrid? range (position - places)).getD ⟨range.value, 0⟩
  | fuel + 1, places =>
    match onGrid? range (position - places) with
    | some found => found
    | none => search range position fuel (places + 1)

end Shortest

/-- Most digits that are ever needed. -/
def maxDigits : Nat := 17

/-- The shortest decimal that is read back as `x`. -/
def shortest (x : Binary64) : Scientific :=
  if x.isZero then ⟨0, 0⟩
  else
    let range := Shortest.interval x
    let position := Shortest.leadingPosition range.value range.denominator
    Shortest.stripZeros (maxDigits + 1) (Shortest.search range position maxDigits 0)

end RegistrySchema.Decimal
