import Outline.Decimal.Binary64
import Outline.Text.Basic

/-!
# Shortest decimals

The fewest digits that round back to a double, and of those with that many the nearest.
-/
namespace Outline.Binary64

/-- Whether `num / den` rounds to `m * 2 ^ e`: it lies between the midpoints to the neighbours,
which count when the mantissa is even. -/
def roundsTo (m : Nat) (e : Int) (num den : Nat) : Bool :=
  -- in quarters of the last place
  let (n, d) := scaled (4 * num) den e
  let lowGap := if m = leadingBit ∧ e > minExponent then 1 else 2
  if m % 2 = 0 then (4 * m - lowGap) * d ≤ n && n ≤ (4 * m + 2) * d
  else (4 * m - lowGap) * d < n && n < (4 * m + 2) * d

/-- `digits * 10 ^ place` as numerator and denominator. -/
def decimalRatio (digits : Nat) (place : Int) : Nat × Nat :=
  if 0 ≤ place then (digits * Nat.pow 10 place.toNat, 1) else (digits, Nat.pow 10 (-place).toNat)

/-- The value as numerator and denominator. -/
def ratio (m : Nat) (e : Int) : Nat × Nat := scaled m 1 (-e)

/-- The number of digits before the point; zero or less counts the zeros behind it. -/
def magnitude (m : Nat) (e : Int) : Int :=
  let (n, d) := ratio m e
  let whole := n / d
  if whole ≠ 0 then (Nat.repr whole).length
  else
    -- m < 2^(-e), so the value times 10^k first reaches a tenth at k zeros
    Int.negOfNat (((List.range 400).find? fun k => d ≤ n * Nat.pow 10 (k + 1)).getD 0)

/-- The grid points next to the value whose last digit stands at 10 ^ `place`, if they round back,
the nearer first. -/
def nearby (m : Nat) (e : Int) (place : Int) : Option Nat :=
  let (n, d) := ratio m e
  let (up, down) := decimalRatio 1 place
  let (sn, sd) := (n * down, d * up)
  let lo := sn / sd
  let back (digits : Nat) : Bool :=
    let (a, b) := decimalRatio digits place
    roundsTo m e a b
  let nearLow := 2 * (sn % sd) < sd ∨ (2 * (sn % sd) = sd ∧ lo % 2 = 0)
  let order := if nearLow then [lo, lo + 1] else [lo + 1, lo]
  order.find? fun digits => digits ≠ 0 && back digits

/-- Digits and place of the shortest decimal among those of `n`, `n + 1`, … digits. -/
def shortestFrom (m : Nat) (e : Int) (top : Int) (n : Nat) : Nat → Nat × Int
  | 0 => (m, 0)
  | fuel + 1 =>
    match nearby m e (top - n) with
    | some digits => (digits, top - n)
    | none => shortestFrom m e top (n + 1) fuel

/-- The shortest decimal of a double: its digits and the number of digits before the point. -/
def shortest (m : Nat) (e : Int) : Text × Int :=
  if m = 0 then (['0'], 1)
  else
    let (digits, place) := shortestFrom m e (magnitude m e) 1 17
    let text := Text.ofNat digits
    let point := (text.length : Int) + place
    let trimmed := (text.reverse.dropWhile (· == '0')).reverse
    (trimmed, point)

/-- The written form of a shortest decimal: positional from 0.0001 up to 10^16, with a power of
ten of at least two digits otherwise; `dot` adds `.0` to a whole number. -/
def write (dot : Bool) (digits : Text) (point : Int) : Text :=
  let n : Int := digits.length
  if -4 < point ∧ point ≤ 16 then
    if point ≤ 0 then "0.".toList ++ List.replicate (-point).toNat '0' ++ digits
    else if n ≤ point then
      digits ++ List.replicate (point - n).toNat '0' ++ (if dot then ['.', '0'] else [])
    else digits.take point.toNat ++ '.' :: digits.drop point.toNat
  else
    let power := point - 1
    let size := Text.ofNat power.natAbs
    let size := if size.length < 2 then '0' :: size else size
    let mantissa := match digits with
      | [d] => [d]
      | d :: ds => d :: '.' :: ds
      | [] => []
    mantissa ++ 'e' :: (if power < 0 then '-' else '+') :: size

end Outline.Binary64
