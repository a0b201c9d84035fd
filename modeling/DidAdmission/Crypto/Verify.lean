-- SUMMARY: Verifying a signature under any suite, with a key in any of its forms.
import DidAdmission.Codec.Spki
import DidAdmission.Crypto.Ed25519
import DidAdmission.Crypto.Rsa
import DidAdmission.Crypto.Secp256k1
import DidAdmission.Suite

/-!
# Verification

Key bytes come wrapped with the identifier of their algorithm, behind a mark of two bytes, or in the
native form of their suite. `Suite.nativeKey?` brings them to the native form, and `Suite.verify` hands
them to the check of the suite. A wrapped key of another algorithm has no native form.
-/

namespace DidAdmission.Suite

/-- The object identifier of the suite's keys. -/
def algorithm : Suite → Bytes
  | .ed25519 => [0x2b, 0x65, 0x70]
  | .rsa => [0x2a, 0x86, 0x48, 0x86, 0xf7, 0x0d, 0x01, 0x01, 0x01]
  | .secp256k1 => [0x2a, 0x86, 0x48, 0xce, 0x3d, 0x02, 0x01]

/-- The mark before a native key, and the lengths of native keys; RSA keys are never marked. -/
def mark? : Suite → Option (Bytes × List Nat)
  | .ed25519 => some ([0xed, 0x01], [32])
  | .rsa => none
  | .secp256k1 => some ([0xe7, 0x01], [33, 65])

/-- The bytes behind the mark, if what is left has the length of a native key; else all bytes. -/
def unmark (suite : Suite) (key : Bytes) : Bytes :=
  match suite.mark? with
  | none => key
  | some (mark, lengths) =>
    if key.take mark.length = mark ∧ lengths.contains (key.length - mark.length) then
      key.drop mark.length
    else key

/-- The native form of a key. -/
def nativeKey? (suite : Suite) (key : Bytes) : Option Bytes :=
  match Spki.read? key with
  | some spki =>
    if spki.algorithm = suite.algorithm ∧ spki.unusedBits = 0 then some spki.key else none
  | none => some (suite.unmark key)

/-- Does the signature verify over the message under a native key? -/
def verifyNative : Suite → (message key signature : Bytes) → Bool
  | .ed25519 => Ed25519.verify
  | .rsa => Rsa.verify
  | .secp256k1 => Secp256k1.verify

/-- Does the signature verify over the message under the key? -/
def verify (suite : Suite) (message key signature : Bytes) : Bool :=
  match suite.nativeKey? key with
  | some native => suite.verifyNative message native signature
  | none => false

end DidAdmission.Suite
