-- SUMMARY: ECDSA signatures over secp256k1 with SHA-256.
import DidAdmission.Codec.Der
import DidAdmission.Crypto.Modular
import DidAdmission.Crypto.Sha2

/-!
# ECDSA over secp256k1

Points are kept in projective coordinates, where one formula adds any two points. A signature is a pair of
scalars, written as 64 bytes or as a DER sequence; the greater of the two values that `s` may take is
brought to the lesser one before the check.
-/

namespace DidAdmission.Secp256k1

def fieldPrime : Nat := Nat.pow 2 256 - Nat.pow 2 32 - 977

/-- The order of the base point. -/
def order : Nat := 0xFFFFFFFFFFFFFFFFFFFFFFFFFFFFFFFEBAAEDCE6AF48A03BBFD25E8CD0364141

/-- A point in projective coordinates; the neutral point has `z = 0`. -/
structure Point where
  x : Nat
  y : Nat
  z : Nat
deriving DecidableEq, Repr

namespace Point

def zero : Point := ⟨0, 1, 0⟩

def base : Point :=
  ⟨0x79BE667EF9DCBBAC55A06295CE870B07029BFCDB2DCE28D959F2815B16F81798,
   0x483ADA7726A3C4655DA4FBFC0E1108A8FD17B448A68554199C47D08FFB10D4B8, 1⟩

def add (p q : Point) : Point :=
  let m := fieldPrime
  let xx := p.x * q.x % m
  let yy := p.y * q.y % m
  let zz := 21 * (p.z * q.z % m) % m
  let xy := (p.x * q.y + p.y * q.x) % m
  let xz := 21 * (p.x * q.z + p.z * q.x) % m
  let yz := (p.y * q.z + p.z * q.y) % m
  let low := Modular.sub m yy zz
  let high := (yy + zz) % m
  ⟨Modular.sub m (xy * low) (yz * xz % m), (high * low + 3 * xx * xz) % m,
   (high * yz + 3 * xx * xy) % m⟩

def mul (scalar : Nat) (p : Point) : Point :=
  (Modular.bits scalar).foldl
    (fun acc bit => if bit then (acc.add acc).add p else acc.add acc) zero

/-- The affine abscissa of a point, zero for the neutral point. -/
def abscissa (p : Point) : Nat :=
  p.x * Modular.inverse fieldPrime p.z % fieldPrime

end Point

/-! ## Keys -/

/-- The right-hand side of the curve's equation. -/
def curve (x : Nat) : Nat :=
  (x * x % fieldPrime * x + 7) % fieldPrime

/-- The point with the given abscissa whose ordinate has the given parity. -/
def lift? (x parity : Nat) : Option Point :=
  let y := Modular.power fieldPrime (curve x) ((fieldPrime + 1) / 4)
  if x < fieldPrime ∧ y * y % fieldPrime = curve x then
    some ⟨x, if y % 2 = parity then y else fieldPrime - y, 1⟩
  else none

/-- Reads a point: compressed with the parity of its ordinate, compact with an even ordinate, or
uncompressed. -/
def Point.read? (b : Bytes) : Option Point :=
  match b with
  | [] => none
  | tag :: rest =>
    if (tag = 2 ∨ tag = 3 ∨ tag = 5) ∧ rest.length = 32 then
      lift? (Bytes.toNat rest) (if tag = 3 then 1 else 0)
    else if tag = 4 ∧ rest.length = 64 then
      let x := Bytes.toNat (rest.take 32)
      let y := Bytes.toNat (rest.drop 32)
      if x < fieldPrime ∧ y < fieldPrime ∧ y * y % fieldPrime = curve x then some ⟨x, y, 1⟩
      else none
    else none

/-! ## Signatures -/

/-- A pair of scalars. -/
structure Scalars where
  r : Nat
  s : Nat
deriving DecidableEq, Repr

namespace Scalars

/-- Both scalars are positive and less than the order. -/
def isInRange (g : Scalars) : Bool :=
  0 < g.r && g.r < order && 0 < g.s && g.s < order

/-- The pair, if it is in range. -/
def checked? (g : Scalars) : Option Scalars :=
  if g.isInRange then some g else none

/-- The lengths admitted in a DER signature. -/
def limit : Der.Limit := ⟨4, Nat.pow 2 28 - 1⟩

def readCompact? (b : Bytes) : Option Scalars :=
  if b.length = 64 then checked? ⟨Bytes.toNat (b.take 32), Bytes.toNat (b.drop 32)⟩ else none

def readDer? (b : Bytes) : Option Scalars :=
  (Der.readIntegerPair? limit b).bind fun (r, s) => checked? ⟨r, s⟩

/-- Reads either form. A leading sequence tag means that the DER form is tried first, since 64 bytes may
be both. -/
def read? (b : Bytes) : Option Scalars :=
  if b.head? = some Der.sequenceTag then readDer? b <|> readCompact? b
  else readCompact? b <|> readDer? b

/-- The 64 bytes of a pair. -/
def compact (g : Scalars) : Bytes :=
  Bytes.ofNatPadded 32 g.r ++ Bytes.ofNatPadded 32 g.s

/-- The DER sequence of a pair. -/
def der (g : Scalars) : Bytes :=
  Der.integerPair (Bytes.ofNat g.r) (Bytes.ofNat g.s)

/-- The pair with the lesser of the two values of `s`. -/
def normalize (g : Scalars) : Scalars :=
  if order / 2 < g.s then ⟨g.r, order - g.s⟩ else g

end Scalars

/-- Does a normalized pair verify over a digest under a point? -/
def verifyDigest (digest : Nat) (key : Point) (g : Scalars) : Bool :=
  let inverse := Modular.inverse order g.s
  let sum := (Point.mul (digest * inverse % order) .base).add (Point.mul (g.r * inverse % order) key)
  sum.abscissa % order == g.r

/-- Does the signature verify over the message under the key? -/
def verify (message key signature : Bytes) : Bool :=
  match Point.read? key, Scalars.read? signature with
  | some point, some scalars =>
    verifyDigest (Bytes.toNat (Sha2.sha256.digest message) % order) point scalars.normalize
  | _, _ => false

end DidAdmission.Secp256k1
