import RegistrySchema.Decimal.Shortest

/-!
# Decimal notation

How a decimal is written: with a point where it is neither too large nor too small, with an
exponent otherwise.
-/

namespace RegistrySchema.Decimal

/-- The decisions of a notation. -/
structure Layout where
  /-- Numbers from `10 ^ positionalEnd` on have an exponent. -/
  positionalEnd : Int
  /-- Numbers below `10 ^ positionalStart` have an exponent. -/
  positionalStart : Int
  /-- What is written behind a whole number. -/
  wholeMark : String
  /-- What stands before an exponent that is not negative. -/
  raisingMark : String
  /-- What stands before the size of a negative exponent. -/
  loweringMark : String

/-- As many zeros as `count` says. -/
def zeros (count : Nat) : String := String.ofList (List.replicate count '0')

/-- Write a decimal. -/
def Layout.text (layout : Layout) (x : Scientific) : String :=
  let digits := String.ofList (Nat.toDigits 10 x.digits)
  let size := digits.length
  let point : Int := size + x.exponent
  if 0 ≤ x.exponent && point ≤ layout.positionalEnd then
    digits ++ zeros x.exponent.toNat ++ layout.wholeMark
  else if 0 < point && point ≤ layout.positionalEnd then
    String.ofList (digits.toList.take point.toNat) ++ "."
      ++ String.ofList (digits.toList.drop point.toNat)
  else if layout.positionalStart < point && point ≤ 0 then
    "0." ++ zeros (-point).toNat ++ digits
  else
    let lead := String.ofList (digits.toList.take 1)
    let tail := String.ofList (digits.toList.drop 1)
    let power := point - 1
    lead ++ (if tail.isEmpty then "" else "." ++ tail)
      ++ (if power < 0 then layout.loweringMark else layout.raisingMark)
      ++ toString power.natAbs

end RegistrySchema.Decimal
