-- SUMMARY: Crypto suites and their names.

/-!
# Crypto suites

A suite pairs a kind of key with a kind of signature. Each has a name of its own in documents (for keys),
in instructions (for signatures), in profiles and in messages.
-/

namespace DidAdmission

/-- A crypto suite. -/
inductive Suite
  | ed25519
  | rsa
  | secp256k1
deriving DecidableEq, Repr

namespace Suite

def all : List Suite := [.ed25519, .rsa, .secp256k1]

/-- The `type` of a key of the suite. -/
def keyType : Suite → String
  | .ed25519 => "Ed25519VerificationKey2018"
  | .rsa => "RsaVerificationKey2018"
  | .secp256k1 => "EcdsaSecp256k1VerificationKey2019"

/-- The `type` of a signature of the suite. -/
def signatureType : Suite → String
  | .ed25519 => "Ed25519Signature2018"
  | .rsa => "RsaSignature2018"
  | .secp256k1 => "EcdsaSecp256k1Signature2019"

def display : Suite → String
  | .ed25519 => "Ed25519"
  | .rsa => "RSA"
  | .secp256k1 => "ECDSA-secp256k1"

def name : Suite → String
  | .ed25519 => "ed25519"
  | .rsa => "rsa"
  | .secp256k1 => "ecdsa-secp256k1"

/-- The suite's name where a profile is shown. -/
def label : Suite → String
  | .ed25519 => "Ed25519"
  | .rsa => "Rsa"
  | .secp256k1 => "EcdsaSecp256k1"

/-- The suite whose keys have the given `type`. -/
def ofKeyType? (type : String) : Option Suite :=
  all.find? (·.keyType == type)

/-- The suite whose signatures have the given `type`. -/
def ofSignatureType? (type : String) : Option Suite :=
  all.find? (·.signatureType == type)

/-- The suite with the given name in profiles. -/
def ofName? (name : String) : Option Suite :=
  all.find? (·.name == name)

end Suite

end DidAdmission
