-- SUMMARY: Finite binary floating-point numbers of 64 bits, with exact rounding.

/-!
# Binary floating point

A `Magnitude` is a non-negative number `significand * 2 ^ exponent` of the 64-bit binary format: at
most 53 significant bits, no exponent below that of the least subnormal number. `Magnitude.round`
takes a quotient of natural numbers to the nearest one, a tie to the even neighbour; it has no answer
for a quotient that rounds beyond the greatest finite number.
-/

namespace DidAdmission

/-- A non-negative number `significand * 2 ^ exponent`. -/
structure Magnitude where
  significand : Nat
  exponent : Int
deriving DecidableEq, Repr

/-- A finite number of the 64-bit binary format. -/
structure Binary64 where
  negative : Bool
  magnitude : Magnitude
deriving DecidableEq, Repr

namespace Magnitude

/-- The exponent of the least subnormal number. -/
def minExponent : Int := -1074

/-- The exponent of the greatest finite number. -/
def maxExponent : Int := 971

def zero : Magnitude := ⟨0, minExponent⟩

def isZero (x : Magnitude) : Bool :=
  x.significand == 0

/-- The numerator and the denominator of `num / den * 2 ^ shift`. -/
def shifted (num den : Nat) (shift : Int) : Nat × Nat :=
  if 0 ≤ shift then (num * Nat.pow 2 shift.toNat, den) else (num, den * Nat.pow 2 (-shift).toNat)

/-- The exponent of the lowest bit kept when `num / den` is rounded to 53 bits. -/
def keptExponent (num den : Nat) : Int :=
  let estimate : Int := (num.log2 : Int) - (den.log2 : Int)
  let (n, d) := shifted num den (-estimate)
  max minExponent (if d ≤ n then estimate - 52 else estimate - 53)

/-- The quotient rounded to a natural number, a tie to the even neighbour. -/
def roundHalfEven (num den : Nat) : Nat :=
  let floor := num / den
  let rest := 2 * (num % den)
  if den < rest || (rest == den && floor % 2 == 1) then floor + 1 else floor

/-- The number nearest to `num / den`, unless that is too great. -/
def round (num den : Nat) : Option Magnitude :=
  if num = 0 then some zero
  else
    let exponent := keptExponent num den
    let (n, d) := shifted num den (-exponent)
    let significand := roundHalfEven n d
    let result : Magnitude :=
      if significand = Nat.pow 2 53 then ⟨Nat.pow 2 52, exponent + 1⟩ else ⟨significand, exponent⟩
    if maxExponent < result.exponent then none else some result

/-- The numerator and the denominator of a number. -/
def ratio (x : Magnitude) : Nat × Nat :=
  shifted x.significand 1 x.exponent

def mul (x y : Magnitude) : Option Magnitude :=
  round (x.ratio.1 * y.ratio.1) (x.ratio.2 * y.ratio.2)

/-- The rounded quotient, by a number other than zero. -/
def div (x y : Magnitude) : Option Magnitude :=
  round (x.ratio.1 * y.ratio.2) (x.ratio.2 * y.ratio.1)

/-- The number nearest to a power of ten, by an exponent of at most 308. -/
def powerOfTen (exponent : Nat) : Magnitude :=
  (round (Nat.pow 10 exponent) 1).getD zero

end Magnitude

end DidAdmission
