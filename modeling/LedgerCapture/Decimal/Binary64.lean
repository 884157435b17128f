/-!
Double-precision numbers as exact values. A number is a sign, a significand below 2^53 and a power of
two; `nearest` rounds a ratio of naturals to the closest of them, halfway cases to the even
significand. Nothing here is machine arithmetic, so all of it can be evaluated in proofs.
-/
namespace LedgerCapture.Decimal

/-- A finite double: `significand * 2 ^ exponent`, negated if `negative`. The significand is at least
2^52 unless the exponent is the least one, so that equal values have equal representations. -/
structure Binary64 where
  negative : Bool
  significand : Nat
  exponent : Int
  deriving DecidableEq, Repr, Inhabited

/-- The least exponent: zero and the subnormal numbers have it. -/
def leastExponent : Int := -1074

def greatestExponent : Int := 971

/-- The quotient of two naturals to the nearest integer, a half to the even one. -/
def divRound (dividend divisor : Nat) : Nat :=
  let quotient := dividend / divisor
  let rest := 2 * (dividend % divisor)
  if rest < divisor || (rest == divisor && quotient % 2 == 0) then quotient else quotient + 1

/-- `dividend / divisor` scaled by `2 ^ (-exponent)`, as a ratio. -/
def scaleDown (dividend divisor : Nat) (exponent : Int) : Nat × Nat :=
  if exponent ≥ 0 then (dividend, divisor * Nat.pow 2 exponent.toNat)
  else (dividend * Nat.pow 2 (-exponent).toNat, divisor)

/-- The exponent with which the ratio has a significand of 53 bits, or the least one. -/
def fittingExponent (dividend divisor : Nat) : Int :=
  let guess : Int := (dividend.log2 : Int) - (divisor.log2 : Int) - 53
  let scaled := scaleDown dividend divisor guess
  let exponent := if scaled.1 / scaled.2 < Nat.pow 2 53 then guess else guess + 1
  max exponent leastExponent

/-- The double closest to `dividend / divisor`, or `none` if that is too large for one. -/
def nearest (negative : Bool) (dividend divisor : Nat) : Option Binary64 :=
  if dividend == 0 then some ⟨negative, 0, leastExponent⟩
  else
    let exponent := fittingExponent dividend divisor
    let scaled := scaleDown dividend divisor exponent
    let significand := divRound scaled.1 scaled.2
    let result : Binary64 :=
      if significand == Nat.pow 2 53 then ⟨negative, Nat.pow 2 52, exponent + 1⟩
      else ⟨negative, significand, exponent⟩
    if result.exponent > greatestExponent then none else some result

/-- Powers of ten beyond this size are settled without computing them. -/
private def farExponent : Int := 400

/-- The double closest to `digits * 10 ^ power`, where `count` is the number of decimal digits of
`digits`, or `none` if that is too large for one. -/
def ofDecimal (negative : Bool) (digits : Nat) (count : Nat) (power : Int) : Option Binary64 :=
  if digits == 0 then some ⟨negative, 0, leastExponent⟩
  else if power + count > farExponent then none
  else if power + count < -farExponent then some ⟨negative, 0, leastExponent⟩
  else if power ≥ 0 then nearest negative (digits * Nat.pow 10 power.toNat) 1
  else nearest negative digits (Nat.pow 10 (-power).toNat)

example : nearest false 1 1 = some ⟨false, Nat.pow 2 52, -52⟩ := by decide +kernel
example : ofDecimal false 5 1 (-324) = some ⟨false, 1, -1074⟩ := by decide +kernel
example : ofDecimal false 17976931348623159 17 292 = none := by decide +kernel

end LedgerCapture.Decimal
