-- SUMMARY: A key verifies alike in all its forms: wrapped, marked and native.
import DidAdmission.Crypto.Verify
import DidAdmission.Proofs.Codec.WrappedKeys

/-!
# Forms of a key

Key bytes do not say which form they are in. A wrapped key starts with the tag of a sequence, which no
mark and no point starts with, and a pair of integers holds no sequence; so each form is brought back to
the native key that it was made of, and signatures are checked with that key (`key_forms_verify_alike`).
-/

namespace DidAdmission

open Der (sequenceTag)

namespace Suite

variable {suite : Suite} {message key bare signature : Bytes}

/-! ## Wrapping -/

/-- What stands beside the identifier of the suite's algorithm: nothing, a null, or the curve. -/
def parameter : Suite → Bytes
  | .ed25519 => []
  | .rsa => Der.element 0x05 []
  | .secp256k1 => Der.element Der.objectIdentifierTag [0x2b, 0x81, 0x04, 0x00, 0x0a]

/-- A native key of the suite, wrapped. -/
def wrap (suite : Suite) (key : Bytes) : Spki :=
  ⟨suite.algorithm, suite.parameter, 0, key⟩

example : (ed25519.wrap (List.replicate 32 0xaa)).write =
    [0x30, 0x2a, 0x30, 0x05, 0x06, 0x03, 0x2b, 0x65, 0x70, 0x03, 0x21, 0x00]
      ++ List.replicate 32 0xaa := by
  decide

theorem isObjectIdentifier_algorithm (suite : Suite) :
    Spki.isObjectIdentifier suite.algorithm = true := by
  cases suite <;> decide

theorem isParameter_parameter (suite : Suite) : Spki.isParameter suite.parameter = true := by
  cases suite <;> decide

theorem wrap_wellFormed (h : Spki.limit.Admits (suite.wrap key).content.length) :
    (suite.wrap key).WellFormed where
  algorithm := suite.isObjectIdentifier_algorithm
  parameter := suite.isParameter_parameter
  unusedBits := UInt8.le_of_lt (show (0 : UInt8) < 7 by decide)
  key := .inl rfl
  length := h

/-- A wrapped point or a shorter key is far below the lengths that are admitted. -/
theorem admits_content_wrap (suite : Suite) (h : key.length ≤ 65) :
    Spki.limit.Admits (suite.wrap key).content.length := by
  have hbits : (Der.element Der.bitStringTag ((0 : UInt8) :: key)).length = key.length + 3 := by
    have hshort : key.length + 1 < 128 := by omega
    simp [Der.element, Der.lengthOctets, hshort]
  have halgorithm : (Der.sequence [Der.element Der.objectIdentifierTag suite.algorithm,
      suite.parameter]).length ≤ 18 := by
    cases suite <;> decide
  refine .inl ?_
  rw [Spki.content, List.length_append]
  change (Der.sequence [Der.element Der.objectIdentifierTag suite.algorithm,
    suite.parameter]).length + (Der.element Der.bitStringTag ((0 : UInt8) :: key)).length < 128
  omega

/-- A wrapped key is taken by its algorithm, if all of its bits count. -/
theorem nativeKey?_of_read? {spki : Spki} (h : Spki.read? key = some spki) : suite.nativeKey? key =
    if spki.algorithm = suite.algorithm ∧ spki.unusedBits = 0 then some spki.key else none := by
  rw [nativeKey?, h]

theorem nativeKey?_wrap (h : Spki.limit.Admits (suite.wrap key).content.length) :
    suite.nativeKey? (suite.wrap key).write = some key := by
  rw [nativeKey?_of_read? (Spki.read?_eq_some_iff.2 ⟨rfl, wrap_wellFormed h⟩)]
  exact if_pos ⟨rfl, rfl⟩

/-! ## Marks -/

theorem nativeKey?_of_read?_eq_none (h : Spki.read? key = none) :
    suite.nativeKey? key = some (suite.unmark key) := by
  rw [nativeKey?, h]

section

variable {mark : Bytes} {lengths : List Nat} (hmark : suite.mark? = some (mark, lengths))
include hmark

/-- A mark is dropped before a native key. -/
theorem unmark_append (h : bare.length ∈ lengths) : suite.unmark (mark ++ bare) = bare := by
  simp [unmark, hmark, h]

/-- What would not leave a native key is kept. -/
theorem unmark_of_length (h : key.length - mark.length ∉ lengths) : suite.unmark key = key := by
  simp only [unmark, hmark]
  rw [if_neg fun hboth => h (List.contains_iff_mem.1 hboth.2)]

/-- What does not start like the mark is kept. -/
theorem unmark_eq_self (h : bare.head? ≠ mark.head?) (hne : mark ≠ []) :
    suite.unmark bare = bare := by
  obtain ⟨x, tail, rfl⟩ := List.exists_cons_of_ne_nil hne
  have htake : bare.take (x :: tail).length ≠ x :: tail := by
    intro htake
    apply h
    rw [← htake, List.head?_take]
    simp
  simp only [unmark, hmark]
  rw [if_neg fun hboth => htake hboth.1]

end

/-! ## Verification -/

theorem verify_of_nativeKey? (h : suite.nativeKey? key = some bare) :
    suite.verify message key signature = suite.verifyNative message bare signature := by
  rw [verify, h]

theorem verify_wrap (h : Spki.limit.Admits (suite.wrap key).content.length) :
    suite.verify message (suite.wrap key).write signature =
      suite.verifyNative message key signature :=
  verify_of_nativeKey? (nativeKey?_wrap h)

/-- A marked key of the right length verifies like the key. -/
theorem verify_marked {mark : Bytes} {lengths : List Nat}
    (hmark : suite.mark? = some (mark, lengths)) (hlength : bare.length ∈ lengths)
    (htag : (mark ++ bare).head? ≠ some sequenceTag) :
    suite.verify message (mark ++ bare) signature =
      suite.verifyNative message bare signature := by
  apply verify_of_nativeKey?
  rw [nativeKey?_of_read?_eq_none (Spki.read?_eq_none_of_head? htag), unmark_append hmark hlength]

/-- A wrapped key of another algorithm verifies nothing. -/
theorem verify_of_other_algorithm {spki : Spki} (h : Spki.read? key = some spki)
    (halgorithm : spki.algorithm ≠ suite.algorithm) : suite.verify message key signature = false := by
  simp [verify, nativeKey?_of_read? h, halgorithm]

end Suite

namespace Secp256k1

/-- The bytes have the shape of a point: compressed with either parity, or uncompressed. -/
inductive IsPointShape : Bytes → Prop
  | compressed {tag : UInt8} {x : Bytes} (htag : tag = 0x02 ∨ tag = 0x03) (hlength : x.length = 32) :
      IsPointShape (tag :: x)
  | uncompressed {xy : Bytes} (hlength : xy.length = 64) : IsPointShape (0x04 :: xy)

variable {point : Bytes}

theorem IsPointShape.length_mem (h : IsPointShape point) : point.length ∈ [33, 65] := by
  cases h with
  | compressed htag hlength => simp [hlength]
  | uncompressed hlength => simp [hlength]

/-- A point starts with none of the marks and tags of the other forms. -/
theorem IsPointShape.head?_ne (h : IsPointShape point) {x : UInt8} (hx : 0x04 < x) :
    point.head? ≠ some x := by
  cases h with
  | compressed htag hlength =>
    rcases htag with rfl | rfl
    all_goals
      rintro ⟨⟩
      exact absurd hx (by decide)
  | uncompressed hlength =>
    rintro ⟨⟩
    exact absurd hx (by decide)

end Secp256k1

/-- Signatures are checked with the native key, whatever form it comes in: an Ed25519 key wrapped or
marked, a point as it is, marked or wrapped, a pair of integers as it is or wrapped. A wrapped key of
another algorithm verifies nothing. -/
theorem key_forms_verify_alike (message signature : Bytes) :
    (∀ k : Bytes, k.length = 32 →
      Suite.ed25519.verify message (Suite.ed25519.wrap k).write signature =
          Ed25519.verify message k signature ∧
        Suite.ed25519.verify message ([0xed, 0x01] ++ k) signature =
          Ed25519.verify message k signature) ∧
    (∀ k, Secp256k1.IsPointShape k →
      Suite.secp256k1.verify message k signature = Secp256k1.verify message k signature ∧
        Suite.secp256k1.verify message ([0xe7, 0x01] ++ k) signature =
          Secp256k1.verify message k signature ∧
        Suite.secp256k1.verify message (Suite.secp256k1.wrap k).write signature =
          Secp256k1.verify message k signature) ∧
    (∀ n e, Spki.read? (Der.integerPair n e) = none ∧
      Suite.rsa.verify message (Der.integerPair n e) signature =
        Rsa.verify message (Der.integerPair n e) signature ∧
      (Spki.limit.Admits (Suite.rsa.wrap (Der.integerPair n e)).content.length →
        Suite.rsa.verify message (Suite.rsa.wrap (Der.integerPair n e)).write signature =
          Rsa.verify message (Der.integerPair n e) signature)) ∧
    ∀ (suite : Suite) (key : Bytes) (spki : Spki), Spki.read? key = some spki →
      spki.algorithm ≠ suite.algorithm → suite.verify message key signature = false := by
  refine ⟨?ed25519, ?secp256k1, ?rsa, ?other⟩
  case ed25519 =>
    intro k hk
    exact ⟨Suite.verify_wrap (Suite.admits_content_wrap _ (by omega)),
      Suite.verify_marked rfl (by simp [hk]) (by simp; decide)⟩
  case secp256k1 =>
    intro k hk
    have hlength := hk.length_mem
    have hread : Spki.read? k = none := Spki.read?_eq_none_of_head? (hk.head?_ne (by decide))
    have hunmark : Suite.secp256k1.unmark k = k :=
      Suite.unmark_eq_self rfl (hk.head?_ne (by decide)) (by decide)
    have hraw : Suite.secp256k1.nativeKey? k = some k := by
      rw [Suite.nativeKey?_of_read?_eq_none hread, hunmark]
    have hshort : k.length ≤ 65 := by
      simp only [List.mem_cons, List.not_mem_nil, or_false] at hlength
      omega
    exact ⟨Suite.verify_of_nativeKey? hraw, Suite.verify_marked rfl hlength (by simp; decide),
      Suite.verify_wrap (Suite.admits_content_wrap _ hshort)⟩
  case rsa =>
    intro n e
    have hread := Spki.read?_integerPair n e
    exact ⟨hread, Suite.verify_of_nativeKey? (Suite.nativeKey?_of_read?_eq_none hread),
      Suite.verify_wrap⟩
  case other =>
    intro suite key spki
    exact Suite.verify_of_other_algorithm

/-! ## A key of each suite in all its forms

The keys are weak ones, so that their signatures can be told without a secret: the neutral point, the base
point itself, and a modulus under which the cube of a power of two is the encoded digest. -/

/-- The neutral point, and a signature with the scalar zero. -/
def Ed25519.neutralKey : Bytes :=
  0x01 :: List.replicate 31 0x00

def Ed25519.neutralSignature : Bytes :=
  neutralKey ++ List.replicate 32 0x00

/-- The base point, whose secret is one, and its signature over no bytes with the nonce one. -/
def Secp256k1.baseKey : Bytes :=
  0x02 :: Bytes.ofNatPadded 32 Point.base.x

def Secp256k1.baseSignature : Bytes :=
  Scalars.compact ⟨Point.base.x, (Bytes.toNat (Sha2.sha256.digest []) + Point.base.x) % order⟩

/-- A modulus under which the cube of the signature is the encoded digest of no bytes. -/
def Rsa.cubeModulus : Bytes :=
  Bytes.ofNat (Nat.pow 2 2049 - Bytes.toNat
    ([0x00, 0x01] ++ List.replicate 203 0xff ++ [0x00] ++ digestLead ++ digest []))

def Rsa.cubeSignature : Bytes :=
  Bytes.ofNatPadded 257 (Nat.pow 2 683)

/-- Each signature verifies with all forms of its key, and not with a wrapped key of another suite. -/
theorem weak_keys_verify_in_all_forms :
    (Ed25519.neutralKey.length = 32 ∧
      Suite.ed25519.verify [] (Suite.ed25519.wrap Ed25519.neutralKey).write Ed25519.neutralSignature ∧
      Suite.ed25519.verify [] ([0xed, 0x01] ++ Ed25519.neutralKey) Ed25519.neutralSignature) ∧
    (Secp256k1.IsPointShape Secp256k1.baseKey ∧
      Suite.secp256k1.verify [] Secp256k1.baseKey Secp256k1.baseSignature ∧
      Suite.secp256k1.verify [] ([0xe7, 0x01] ++ Secp256k1.baseKey) Secp256k1.baseSignature ∧
      Suite.secp256k1.verify [] (Suite.secp256k1.wrap Secp256k1.baseKey).write
        Secp256k1.baseSignature) ∧
    (Spki.limit.Admits (Suite.rsa.wrap (Der.integerPair Rsa.cubeModulus [0x03])).content.length ∧
      Suite.rsa.verify [] (Der.integerPair Rsa.cubeModulus [0x03]) Rsa.cubeSignature ∧
      Suite.rsa.verify [] (Suite.rsa.wrap (Der.integerPair Rsa.cubeModulus [0x03])).write
        Rsa.cubeSignature) ∧
    (Spki.read? (Suite.ed25519.wrap Ed25519.neutralKey).write =
        some (Suite.ed25519.wrap Ed25519.neutralKey) ∧
      Suite.rsa.verify [] (Suite.ed25519.wrap Ed25519.neutralKey).write Rsa.cubeSignature = false) := by
  have hneutral : Ed25519.verify [] Ed25519.neutralKey Ed25519.neutralSignature = true := by
    decide +kernel
  have hbase : Secp256k1.verify [] Secp256k1.baseKey Secp256k1.baseSignature = true := by
    decide +kernel
  have hcube : Rsa.verify [] (Der.integerPair Rsa.cubeModulus [0x03]) Rsa.cubeSignature = true := by
    decide +kernel
  have hshape : Secp256k1.IsPointShape Secp256k1.baseKey := .compressed (.inl rfl) (by simp)
  have hadmits : Spki.limit.Admits
      (Suite.rsa.wrap (Der.integerPair Rsa.cubeModulus [0x03])).content.length :=
    .inr (by decide +kernel)
  have hread : Spki.read? (Suite.ed25519.wrap Ed25519.neutralKey).write =
      some (Suite.ed25519.wrap Ed25519.neutralKey) := by
    decide +kernel
  obtain ⟨hed25519, -⟩ := key_forms_verify_alike [] Ed25519.neutralSignature
  obtain ⟨-, hsecp256k1, -⟩ := key_forms_verify_alike [] Secp256k1.baseSignature
  obtain ⟨-, -, hrsa, hother⟩ := key_forms_verify_alike [] Rsa.cubeSignature
  obtain ⟨hwrapped, hmarked⟩ := hed25519 Ed25519.neutralKey (by decide)
  obtain ⟨hpoint, hmarkedPoint, hwrappedPoint⟩ := hsecp256k1 Secp256k1.baseKey hshape
  obtain ⟨-, hpair, hwrappedPair⟩ := hrsa Rsa.cubeModulus [0x03]
  exact ⟨⟨by decide, hwrapped.trans hneutral, hmarked.trans hneutral⟩,
    ⟨hshape, hpoint.trans hbase, hmarkedPoint.trans hbase, hwrappedPoint.trans hbase⟩,
    ⟨hadmits, hpair.trans hcube, (hwrappedPair hadmits).trans hcube⟩,
    hread, hother .rsa _ _ hread (by decide)⟩

end DidAdmission
