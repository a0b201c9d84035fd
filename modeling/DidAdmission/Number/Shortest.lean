-- SUMMARY: The shortest decimal that reads back as a given binary number.
import DidAdmission.Number.Binary64

/-!
# Shortest decimals

Every real number near enough to a binary number rounds to it. `Magnitude.shortest` finds a decimal
with the fewest digits in that interval, the nearest one where several have that many digits. Its digits
do not end in zero, since a shorter decimal would read back as well.
-/

namespace DidAdmission

/-- The number `digits * 10 ^ exponent`. -/
structure Decimal where
  digits : Nat
  exponent : Int
deriving DecidableEq, Repr

namespace Magnitude

/-- The numerator and the denominator of `n * 10 ^ e`. -/
def tenfold (n : Nat) (e : Int) : Nat × Nat :=
  if 0 ≤ e then (n * Nat.pow 10 e.toNat, 1) else (n, Nat.pow 10 (-e).toNat)

/-- Does the decimal round to the number? The ends of the interval do when the significand is even. -/
def isReadFrom (x : Magnitude) (d : Decimal) : Bool :=
  let (n, den) := tenfold d.digits d.exponent
  let (lowUnits, scale) : Nat × Int :=
    if x.significand = Nat.pow 2 52 ∧ minExponent < x.exponent then (4 * x.significand - 1, x.exponent - 2)
    else (4 * x.significand - 2, x.exponent - 2)
  let highUnits := 4 * x.significand + 2
  let (low, lowDen) := shifted lowUnits 1 scale
  let (high, highDen) := shifted highUnits 1 scale
  if x.significand % 2 = 0 then low * den ≤ n * lowDen && n * highDen ≤ high * den
  else low * den < n * lowDen && n * highDen < high * den

/-- The exponent of the leading decimal digit of a number other than zero. -/
def leadingExponent (x : Magnitude) : Int :=
  let (num, den) := x.ratio
  if den ≤ num then ((Nat.toDigits 10 (num / den)).length : Int) - 1
  else
    let j := (Nat.toDigits 10 (den / num)).length - 1
    if den ≤ num * Nat.pow 10 j then -(j : Int) else -((j : Int) + 1)

/-- The decimal of `count` digits nearest to a number, if it reads back; of two that are equally near the
one with the even last digit. -/
def decimalOf? (x : Magnitude) (count : Nat) : Option Decimal :=
  let exponent := x.leadingExponent - (count : Int) + 1
  let (num, den) := x.ratio
  let (n, d) : Nat × Nat :=
    if 0 ≤ exponent then (num, den * Nat.pow 10 exponent.toNat)
    else (num * Nat.pow 10 (-exponent).toNat, den)
  let below : Decimal := ⟨n / d, exponent⟩
  let above : Decimal :=
    if n / d + 1 = Nat.pow 10 count then ⟨Nat.pow 10 (count - 1), exponent + 1⟩ else ⟨n / d + 1, exponent⟩
  let nearer := if roundHalfEven n d = n / d then [below, above] else [above, below]
  nearer.find? x.isReadFrom

/-- The shortest decimal that reads back as the number; seventeen digits always suffice. -/
def shortest (x : Magnitude) : Decimal :=
  if x.isZero then ⟨0, 0⟩
  else ((List.range 17).findSome? fun i => x.decimalOf? (i + 1)).getD ⟨0, 0⟩

end Magnitude

end DidAdmission
