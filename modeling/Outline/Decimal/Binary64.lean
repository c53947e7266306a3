/-!
# Double precision

A decimal number is a mantissa and a power of ten. Its double is the nearest number with a binary
mantissa of 53 bits and an exponent in range; of two equally near ones the one with the even
mantissa. All arithmetic is exact.
-/
namespace Outline

/-- `mantissa * 10 ^ exponent`. -/
structure Decimal where
  mantissa : Nat
  exponent : Int
  deriving DecidableEq, Repr

/-- A double that is not negative: `mantissa * 2 ^ exponent`, or too large for one. -/
inductive Binary64
  | finite (mantissa : Nat) (exponent : Int)
  | infinite
  deriving DecidableEq, Repr

namespace Binary64

def minExponent : Int := -1074

/-- The least mantissa of 53 bits, which is two to the power of 52. -/
def leadingBit : Nat := 0x10000000000000

def maxExponent : Int := 971

/-- The quotient rounded to the nearest whole number, ties to even. -/
def roundDiv (num den : Nat) : Nat :=
  let q := num / den
  let r := num % den
  if 2 * r > den ∨ (2 * r = den ∧ q % 2 = 1) then q + 1 else q

/-- `num / (den * 2 ^ e)` as numerator and denominator. -/
def scaled (num den : Nat) (e : Int) : Nat × Nat :=
  if 0 ≤ e then (num, den * Nat.pow 2 e.toNat) else (num * Nat.pow 2 (-e).toNat, den)

/-- The double nearest to `num / den`. -/
def ofRatio (num den : Nat) : Binary64 :=
  if num = 0 then .finite 0 0
  else
    let guess : Int := (num.log2 : Int) - den.log2 - 52
    -- the quotient lies in [2^51, 2^53) at the guess
    let (n, d) := scaled num den guess
    let e := if n < leadingBit * d then guess - 1 else guess
    let e := max e minExponent
    let (n, d) := scaled num den e
    let q := roundDiv n d
    let (q, e) := if q = 2 * leadingBit then (leadingBit, e + 1) else (q, e)
    if e > maxExponent then .infinite else .finite q e

/-- The double nearest to a decimal number. Numbers far out of range are told by their size. -/
def ofDecimal (x : Decimal) : Binary64 :=
  let digits : Int := (Nat.repr x.mantissa).length
  if x.mantissa = 0 ∨ digits + x.exponent < -400 then .finite 0 0
  else if digits + x.exponent > 400 then .infinite
  else if 0 ≤ x.exponent then ofRatio (x.mantissa * Nat.pow 10 x.exponent.toNat) 1
  else ofRatio x.mantissa (Nat.pow 10 (-x.exponent).toNat)

/-- The whole number that a double is, if it is one. -/
def toNat? : Binary64 → Option Nat
  | .infinite => none
  | .finite m e =>
    let (n, d) := scaled m 1 (-e)
    if n % d = 0 then some (n / d) else none

end Binary64

end Outline
