-- SUMMARY: RSA signatures with SHA-256, in both standard paddings.
import DidAdmission.Codec.Der
import DidAdmission.Crypto.Modular
import DidAdmission.Crypto.Sha2

/-!
# RSA

A key is a modulus of 2048 to 8192 bits and a small odd exponent. The power of a signature must be an
encoded digest of the message: either the one fixed text of the older padding (`hasFixedPadding`) or a
text with a random salt of 32 bytes (`hasSaltedPadding`).
-/

namespace DidAdmission.Rsa

/-- A public key. -/
structure Key where
  modulus : Nat
  exponent : Nat
deriving DecidableEq, Repr

/-- The lengths admitted in an encoded key. -/
def limit : Der.Limit := ⟨2, Nat.pow 2 16 - 1⟩

/-- The number of bits of a number. -/
def bitLength (n : Nat) : Nat :=
  if n = 0 then 0 else n.log2 + 1

/-- The number of bytes of the modulus. -/
def Key.width (key : Key) : Nat :=
  (bitLength key.modulus + 7) / 8

/-- Is the key one that signatures are checked with? The size of the modulus counts in whole bytes
against the lower bound. -/
def Key.isUsable (key : Key) : Bool :=
  key.modulus % 2 == 1 && 256 ≤ key.width && bitLength key.modulus ≤ 8192
    && key.exponent % 2 == 1 && 3 ≤ key.exponent && key.exponent ≤ Nat.pow 2 33 - 1

def Key.read? (b : Bytes) : Option Key :=
  match Der.readIntegerPair? limit b with
  | some (n, e) => if Key.isUsable ⟨n, e⟩ then some ⟨n, e⟩ else none
  | none => none

def digest (message : Bytes) : Bytes :=
  Sha2.sha256.digest message

/-- The algorithm of the digest and the opening of the octets that hold it. -/
def digestLead : Bytes :=
  [0x30, 0x31, 0x30, 0x0d, 0x06, 0x09, 0x60, 0x86, 0x48, 0x01, 0x65, 0x03, 0x04, 0x02, 0x01, 0x05,
   0x00, 0x04, 0x20]

/-- Is this the digest behind a run of `ff` bytes that fills the width? -/
def hasFixedPadding (width : Nat) (message encoded : Bytes) : Bool :=
  let tail := digestLead ++ digest message
  encoded == [0x00, 0x01] ++ List.replicate (width - tail.length - 3) 0xff ++ [0x00] ++ tail

/-- `count` digests of the seed with a counter, joined. -/
def maskBlocks (seed : Bytes) (count : Nat) : Bytes :=
  (List.range count).flatMap fun i => digest (seed ++ Bytes.ofNatPadded 4 i)

/-- `length` bytes grown from a seed. -/
def mask (seed : Bytes) (length : Nat) : Bytes :=
  (maskBlocks seed ((length + 31) / 32)).take length

/-- Is this a salted digest, masked, for a modulus of the given number of bits? -/
def hasSaltedPadding (modulusBits : Nat) (message encoded : Bytes) : Bool :=
  let bits := modulusBits - 1
  let width := (bits + 7) / 8
  let topMask := UInt8.ofNat (255 >>> (8 * width - bits))
  let masked := encoded.drop (encoded.length - width)
  let dataLength := width - 33
  let maskedData := masked.take dataLength
  let hash := (masked.drop dataLength).take 32
  let unmasked := List.zipWith (· ^^^ ·) maskedData (mask hash dataLength)
  let data :=
    match unmasked with
    | first :: rest => (first &&& topMask) :: rest
    | [] => []
  let salt := data.drop (dataLength - 32)
  (encoded.take (encoded.length - width)).all (· == 0)
    && masked.drop (dataLength + 32) == [0xbc]
    && (maskedData.headD 0 &&& topMask) == maskedData.headD 0
    && data.take (dataLength - 32) == List.replicate (dataLength - 33) 0 ++ [0x01]
    && hash == digest (List.replicate 8 0 ++ digest message ++ salt)

/-- Does the signature verify over the message under the key? -/
def verify (message key signature : Bytes) : Bool :=
  match Key.read? key with
  | none => false
  | some key =>
    let s := Bytes.toNat signature
    if signature.length = key.width ∧ 0 < s ∧ s < key.modulus then
      let encoded := Bytes.ofNatPadded key.width (Modular.power key.modulus s key.exponent)
      hasFixedPadding key.width message encoded
        || hasSaltedPadding (bitLength key.modulus) message encoded
    else false

end DidAdmission.Rsa
