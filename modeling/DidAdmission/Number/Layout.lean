-- SUMMARY: Decimals laid out as text, positionally or with an exponent.
import DidAdmission.Number.Shortest

/-!
# Layout of decimals

A decimal whose leading digit stands near enough to the point is written positionally, with at least one
digit on both sides of the point; any other with one digit before the point, if a point is needed, and an
exponent that shows its sign. A `Layout` says how near is near enough.
-/

namespace DidAdmission

/-- The exponents of the leading digit between which a decimal is written positionally. -/
structure Layout where
  /-- The least exponent. -/
  positionalFrom : Int
  /-- The exponent above the greatest. -/
  positionalBelow : Int
deriving DecidableEq, Repr

namespace Decimal

/-- The digits of a decimal, the leading one first. -/
def figures (d : Decimal) : List Char :=
  Nat.toDigits 10 d.digits

/-- The exponent of the leading digit. -/
def leading (d : Decimal) : Int :=
  d.exponent + d.figures.length - 1

def positional (d : Decimal) : List Char :=
  if 0 ≤ d.exponent then d.figures ++ List.replicate d.exponent.toNat '0' ++ ['.', '0']
  else
    let places := (-d.exponent).toNat
    let padded := List.replicate (places + 1 - d.figures.length) '0' ++ d.figures
    padded.take (padded.length - places) ++ ['.'] ++ padded.drop (padded.length - places)

def signedExponent (e : Int) : List Char :=
  (if e < 0 then '-' else '+') :: Nat.toDigits 10 e.natAbs

/-- A decimal written with an exponent. -/
def scientific (d : Decimal) : List Char :=
  let mantissa :=
    match d.figures with
    | first :: second :: rest => first :: '.' :: second :: rest
    | figures => figures
  mantissa ++ 'e' :: signedExponent d.leading

end Decimal

namespace Layout

def isPositional (layout : Layout) (d : Decimal) : Bool :=
  layout.positionalFrom ≤ d.leading && d.leading < layout.positionalBelow

/-- A decimal as it is laid out. -/
def decimal (layout : Layout) (d : Decimal) : List Char :=
  if layout.isPositional d then d.positional else d.scientific

/-- The shortest decimal that reads back as the number, as it is laid out. -/
def real (layout : Layout) (x : Binary64) : String :=
  String.ofList ((if x.negative then ['-'] else []) ++ layout.decimal x.magnitude.shortest)

end Layout

end DidAdmission
