-- SUMMARY: Powers and inverses modulo a number.
import DidAdmission.Bytes

/-!
# Modular arithmetic

Powers are taken by squaring, from the leading bit of the exponent down. Modulo a prime, inverses are
powers.
-/

namespace DidAdmission.Modular

/-- The bits of a number, most significant first. -/
def bits (n : Nat) : List Bool :=
  (Digits.ofNat 2 n).map (· == 1)

/-- A power modulo `m`. -/
def power (m base exponent : Nat) : Nat :=
  (bits exponent).foldl
    (fun acc bit => if bit then acc * acc % m * base % m else acc * acc % m) (1 % m)

def inverse (p x : Nat) : Nat :=
  power p x (p - 2)

/-- The difference of two numbers modulo `m`; the second must be less than `m`. -/
def sub (m x y : Nat) : Nat :=
  (x + (m - y)) % m

end DidAdmission.Modular
