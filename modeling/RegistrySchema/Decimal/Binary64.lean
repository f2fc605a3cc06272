/-!
# Binary floating point numbers

Finite numbers with 53 significant binary digits, as exact values: a mantissa times a power of
two. Quotients of natural numbers are rounded to the nearest such number, of two equally near
ones to the one with the even mantissa; a quotient beyond the largest number has none.
-/

namespace RegistrySchema.Decimal

/-- The number `mantissa * 2 ^ exponent`, without its sign. The mantissa has at most 53 binary
digits, and fewer only at the smallest exponent. -/
structure Binary64 where
  mantissa : Nat
  exponent : Int
  deriving DecidableEq, Inhabited, Repr

namespace Binary64

/-- Number of binary digits of a mantissa. -/
def precision : Nat := 53

/-- The exponent of the smallest numbers. -/
def minExponent : Int := -1074

/-- The exponent of the largest numbers. -/
def maxExponent : Int := 971

/-- Zero. -/
def zero : Binary64 := ⟨0, minExponent⟩

/-- Whether a number is zero. -/
def isZero (x : Binary64) : Bool := x.mantissa = 0

/-- The quotient `num / den` as numerator and denominator in units of `2 ^ exponent`. -/
def inUnits (num den : Nat) (exponent : Int) : Nat × Nat :=
  if 0 ≤ exponent then (num, den * Nat.pow 2 exponent.toNat)
  else (num * Nat.pow 2 (-exponent).toNat, den)

/-- A number as a quotient of natural numbers. -/
def asRatio (x : Binary64) : Nat × Nat :=
  if 0 ≤ x.exponent then (x.mantissa * Nat.pow 2 x.exponent.toNat, 1)
  else (x.mantissa, Nat.pow 2 (-x.exponent).toNat)

/-- The quotient rounded to an integer, a half to the even neighbour. -/
def roundHalfEven (num den : Nat) : Nat :=
  let quotient := num / den
  let twice := 2 * (num % den)
  if twice < den then quotient
  else if twice = den && quotient % 2 = 0 then quotient
  else quotient + 1

/-- The unit of the last place of `num / den`. -/
def lastPlace (num den : Nat) : Int :=
  let guess : Int := (num.log2 : Int) - (den.log2 : Int) - (precision - 1 : Nat)
  let (n, d) := inUnits num den guess
  let exponent := if n / d < Nat.pow 2 (precision - 1) then guess - 1 else guess
  max exponent minExponent

/-- The nearest number to `num / den`, or `none` beyond the largest. -/
def ofRatio? (num den : Nat) : Option Binary64 :=
  if num = 0 || den = 0 then some zero
  else
    let exponent := lastPlace num den
    let (n, d) := inUnits num den exponent
    let rounded := roundHalfEven n d
    let result : Binary64 :=
      if rounded = Nat.pow 2 precision then ⟨Nat.pow 2 (precision - 1), exponent + 1⟩
      else ⟨rounded, exponent⟩
    if result.exponent ≤ maxExponent then some result else none

/-- The nearest number to a natural number. -/
def ofNat? (n : Nat) : Option Binary64 := ofRatio? n 1

/-- The rounded product. -/
def mul? (x y : Binary64) : Option Binary64 :=
  let (xn, xd) := x.asRatio
  let (yn, yd) := y.asRatio
  ofRatio? (xn * yn) (xd * yd)

/-- The rounded quotient. -/
def div? (x y : Binary64) : Option Binary64 :=
  let (xn, xd) := x.asRatio
  let (yn, yd) := y.asRatio
  ofRatio? (xn * yd) (xd * yn)

end Binary64

end RegistrySchema.Decimal
