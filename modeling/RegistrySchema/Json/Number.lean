import RegistrySchema.Decimal.Binary64
import RegistrySchema.Json.Doc

/-!
# Values of JSON numbers

A number without a point and an exponent is an integer if it fits 64 bits: unsigned, or signed if
it is negative and not zero. Any other number is a binary floating point number. Its significand
is as many of the digits as fit 64 bits; it is multiplied or divided by one power of ten, so the
result may differ from the nearest number in the last place. A number beyond the largest has no
value.
-/

namespace RegistrySchema.Json

open Decimal (Binary64)

/-- The value of a number. -/
inductive Number where
  /-- An integer. -/
  | integer (value : Int)
  /-- A floating point number with its sign. -/
  | float (negative : Bool) (magnitude : Binary64)
  deriving DecidableEq, Inhabited, Repr

namespace NumberText

/-- The largest significand, and the largest integer of 64 bits. -/
def maxSignificand : Nat := 18446744073709551615

/-- The largest size of a negative integer of 64 bits. -/
def maxNegative : Nat := 9223372036854775808

/-- The largest exponent that is looked at. -/
def maxExponent : Nat := 2147483647

/-- The largest power of ten that is used in one step. -/
def maxPower : Nat := 308

/-- The value of a digit. -/
def digitValue (c : Char) : Nat := c.toNat - '0'.toNat

/-- The number written by digits. -/
def digitsValue (digits : List Char) : Nat :=
  digits.foldl (fun n c => n * 10 + digitValue c) 0

/-- Append digits to a significand as long as it fits; the digits left over come second. -/
def absorb (significand : Nat) : List Char → Nat × List Char
  | [] => (significand, [])
  | c :: cs =>
    let next := significand * 10 + digitValue c
    if next ≤ maxSignificand then absorb next cs else (significand, c :: cs)

/-- A power of ten as a floating point number. -/
def power (exponent : Nat) : Binary64 := (Binary64.ofNat? (Nat.pow 10 exponent)).getD Binary64.zero

/-- Divide by a factor a number of times, as long as there is something to divide. -/
def divideTimes (factor : Binary64) : Nat → Binary64 → Option Binary64
  | 0, x => some x
  | steps + 1, x => if x.isZero then some x else (x.div? factor).bind (divideTimes factor steps)

/-- Divide by a power of ten: as often as needed by the largest power, then by the rest. -/
def scaleDown (x : Binary64) (exponent : Nat) : Option Binary64 :=
  let steps := (exponent - 1) / maxPower
  (divideTimes (power maxPower) steps x).bind fun y =>
    y.div? (power (exponent - steps * maxPower))

/-- Scale by a power of ten; `none` beyond the largest number. -/
def scale (x : Binary64) (exponent : Int) : Option Binary64 :=
  if exponent < 0 then scaleDown x (-exponent).toNat
  else if exponent.toNat ≤ maxPower then x.mul? (power exponent.toNat)
  else if x.isZero then some x
  else none

/-- The significand and the power of ten of the digits before and behind the point. -/
def significand (text : NumberText) : Nat × Int :=
  let (whole, dropped) := absorb 0 text.whole
  match text.fraction with
  | none => (whole, dropped.length)
  | some digits =>
    let (full, left) := absorb whole digits
    (full, (dropped.length : Int) - (digits.length - left.length : Nat))

/-- The magnitude as a floating point number. -/
def magnitude? (text : NumberText) : Option Binary64 :=
  let (digits, shift) := text.significand
  match Binary64.ofNat? digits with
  | none => none
  | some x =>
    match text.exponent with
    | none => scale x shift
    | some (down, exponent) =>
      let size := digitsValue exponent
      if maxExponent < size then
        if digits = 0 || down then some Binary64.zero else none
      else scale x (if down then shift - size else shift + size)

/-- The integer, if the number is written as one and fits. -/
def integer? (text : NumberText) : Option Int :=
  if text.fraction.isSome || text.exponent.isSome then none
  else
    let size := digitsValue text.whole
    if text.negative then
      if 0 < size && size ≤ maxNegative then some (-(size : Int)) else none
    else if size ≤ maxSignificand then some size
    else none

/-- The value of a number, or `none` beyond the largest. -/
def value? (text : NumberText) : Option Number :=
  match text.integer? with
  | some n => some (.integer n)
  | none => text.magnitude?.map (.float text.negative)

end NumberText

end RegistrySchema.Json
