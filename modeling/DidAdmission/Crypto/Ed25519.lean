-- SUMMARY: Ed25519 signatures.
import DidAdmission.Crypto.Modular
import DidAdmission.Crypto.Sha2

/-!
# Ed25519

Points of the twisted Edwards curve are kept in extended coordinates, where one formula adds any two
points. A signature is a point and a scalar; it verifies when the point recomputed from the scalar, the
key and the hash has exactly the bytes of the signature's point.
-/

namespace DidAdmission.Ed25519

def fieldPrime : Nat := Nat.pow 2 255 - 19

/-- The order of the base point. -/
def order : Nat := Nat.pow 2 252 + 27742317777372353535851937790883648493

def curveD : Nat := 37095705934669439343138083508754565189542113879843219016388785533085940283555

/-- A square root of minus one. -/
def rootOfMinusOne : Nat :=
  19681161376707505956807079304988542015446066515923890162744021073123829784752

/-- A point in extended coordinates. -/
structure Point where
  x : Nat
  y : Nat
  z : Nat
  t : Nat
deriving DecidableEq, Repr

namespace Point

/-- The point with the given affine coordinates. -/
def ofAffine (x y : Nat) : Point := ⟨x, y, 1, x * y % fieldPrime⟩

def zero : Point := ⟨0, 1, 1, 0⟩

def base : Point :=
  ofAffine 15112221349535400772501151409588531511454012693041857206046113283949847762202
    46316835694926478169428394003475163141307993866256225615783033603165251855960

def add (p q : Point) : Point :=
  let a := (p.y + (fieldPrime - p.x)) * (q.y + (fieldPrime - q.x)) % fieldPrime
  let b := (p.y + p.x) * (q.y + q.x) % fieldPrime
  let c := 2 * curveD * p.t % fieldPrime * q.t % fieldPrime
  let d := 2 * p.z * q.z % fieldPrime
  let e := Modular.sub fieldPrime b a
  let f := Modular.sub fieldPrime d c
  let g := (d + c) % fieldPrime
  let h := (b + a) % fieldPrime
  ⟨e * f % fieldPrime, g * h % fieldPrime, f * g % fieldPrime, e * h % fieldPrime⟩

def neg (p : Point) : Point :=
  { p with x := (fieldPrime - p.x) % fieldPrime, t := (fieldPrime - p.t) % fieldPrime }

def mul (scalar : Nat) (p : Point) : Point :=
  (Modular.bits scalar).foldl
    (fun acc bit => if bit then (acc.add acc).add p else acc.add acc) zero

end Point

/-- The number that bytes write, least significant first. -/
def littleEndian (b : Bytes) : Nat :=
  Bytes.toNat b.reverse

/-- The bytes of a point: the ordinate, with the parity of the abscissa in the top bit. -/
def Point.encode (p : Point) : Bytes :=
  let inverse := Modular.inverse fieldPrime p.z
  let x := p.x * inverse % fieldPrime
  let y := p.y * inverse % fieldPrime
  (Bytes.ofNatPadded 32 (y + x % 2 * Nat.pow 2 255)).reverse

/-- A square root of a quotient, if there is one. -/
def quotientRoot? (u v : Nat) : Option Nat :=
  let p := fieldPrime
  let v3 := v * v % p * v % p
  let candidate := u * v3 % p * Modular.power p (u * v3 % p * v3 % p * v % p) ((p - 5) / 8) % p
  let check := v * candidate % p * candidate % p
  if check = u then some candidate
  else if check = (p - u) % p then some (candidate * rootOfMinusOne % p)
  else none

/-- The point that 32 bytes encode. The ordinate may exceed the field, and the abscissa zero may have
either parity bit. -/
def Point.decode? (b : Bytes) : Option Point :=
  if b.length = 32 then
    let n := littleEndian b
    let y := n % Nat.pow 2 255 % fieldPrime
    let parity := n / Nat.pow 2 255
    let y2 := y * y % fieldPrime
    let u := Modular.sub fieldPrime y2 1
    let v := (curveD * y2 + 1) % fieldPrime
    match quotientRoot? u v with
    | none => none
    | some root =>
      let x := if root % 2 = parity then root else (fieldPrime - root) % fieldPrime
      some (Point.ofAffine x y)
  else none

/-- Does the signature verify over the message under the key? -/
def verify (message key signature : Bytes) : Bool :=
  if signature.length = 64 then
    let r := signature.take 32
    let s := littleEndian (signature.drop 32)
    match Point.decode? key with
    | none => false
    | some a =>
      if s < order then
        let h := littleEndian (Sha2.sha512.digest (r ++ key ++ message)) % order
        ((Point.mul s .base).add (Point.mul h a.neg)).encode == r
      else false
  else false

end DidAdmission.Ed25519
