-- SUMMARY: Key bytes are taken for a wrapped key by their shape alone, at any length and with any parameter.
import DidAdmission.Proofs.Crypto.KeyForms

/-!
# Unwrapping

Bytes that can be read as a wrapped key are unwrapped, whatever their length is. So 32 bytes are a raw key
only if they are not a wrapped one whose contents are shorter (`raw_key_kept_unless_wrapped`). Of the
algorithm only the identifier counts: the parameter beside it, which may name a curve, is not looked at
(`parameter_ignored`).
-/

namespace DidAdmission

namespace Der

variable {tag : UInt8} {content : Bytes}

/-- The length of a short content takes one octet. -/
theorem element_of_short (h : content.length < 128) :
    element tag content = tag :: UInt8.ofNat content.length :: content := by
  rw [element, lengthOctets, if_pos h, List.singleton_append]

end Der

namespace Spki

open Der hiding sequence

variable {spki : Spki}

/-! ## Short wrapped keys -/

/-- How many bytes the identifier, the parameter and the key take. -/
def room (spki : Spki) : Nat :=
  spki.algorithm.length + spki.parameter.length + spki.key.length

/-- The bytes of a wrapped key whose lengths all take one octet. -/
def shortForm (spki : Spki) : Bytes :=
  [0x30, UInt8.ofNat (spki.room + 7),
    0x30, UInt8.ofNat (spki.algorithm.length + spki.parameter.length + 2),
    0x06, UInt8.ofNat spki.algorithm.length] ++ spki.algorithm ++ spki.parameter
    ++ [0x03, UInt8.ofNat (spki.key.length + 1), spki.unusedBits] ++ spki.key

theorem length_shortForm (spki : Spki) : spki.shortForm.length = spki.room + 9 := by
  simp only [shortForm, room, List.length_append, List.length_cons, List.length_nil]
  omega

theorem write_eq_shortForm (h : spki.room ≤ 120) : spki.write = spki.shortForm := by
  rw [room] at h
  have hidentifier : element objectIdentifierTag spki.algorithm =
      0x06 :: UInt8.ofNat spki.algorithm.length :: spki.algorithm :=
    element_of_short (by omega)
  have halgorithm : element sequenceTag (element objectIdentifierTag spki.algorithm ++ spki.parameter) =
      0x30 :: UInt8.ofNat (spki.algorithm.length + spki.parameter.length + 2) ::
        (0x06 :: UInt8.ofNat spki.algorithm.length :: spki.algorithm ++ spki.parameter) := by
    have hlength : (0x06 :: UInt8.ofNat spki.algorithm.length :: spki.algorithm ++ spki.parameter).length =
        spki.algorithm.length + spki.parameter.length + 2 := by
      simp only [List.cons_append, List.length_cons, List.length_append]
    rw [hidentifier, element_of_short (by omega), hlength]
    rfl
  have hbits : element bitStringTag (spki.unusedBits :: spki.key) =
      0x03 :: UInt8.ofNat (spki.key.length + 1) :: spki.unusedBits :: spki.key :=
    element_of_short (by rw [List.length_cons]; omega)
  have hlength : spki.content.length = spki.room + 7 := by
    rw [content_eq, halgorithm, hbits, room]
    simp only [List.length_cons, List.length_append, List.cons_append]
    omega
  rw [write_eq_element, element_of_short (by rw [hlength, room]; omega), hlength, content_eq,
    halgorithm, hbits]
  simp [shortForm, sequenceTag]

theorem room_le_length_write (spki : Spki) : spki.room + 9 ≤ spki.write.length := by
  have hidentifier := length_add_two_le_element objectIdentifierTag spki.algorithm
  have halgorithm := length_add_two_le_element sequenceTag
    (element objectIdentifierTag spki.algorithm ++ spki.parameter)
  have hbits := length_add_two_le_element bitStringTag (spki.unusedBits :: spki.key)
  have hwhole := length_add_two_le_element sequenceTag spki.content
  rw [write_eq_element, room]
  simp only [content_eq, List.length_append, List.length_cons] at halgorithm hbits hwhole ⊢
  omega

theorem length_algorithm_ge (h : isObjectIdentifier spki.algorithm = true) :
    3 ≤ spki.algorithm.length := by
  cases hbytes : spki.algorithm with
  | nil => simp [hbytes, isObjectIdentifier] at h
  | cons first rest =>
    simp only [hbytes, isObjectIdentifier, Bool.and_eq_true, decide_eq_true_eq] at h
    exact h.1.1.1

/-- Bytes of the length of a raw key are a wrapped key just if they are one in the short form. -/
theorem read?_eq_some_iff_shortForm {key : Bytes} (hlength : key.length = 32) :
    read? key = some spki ↔ key = spki.shortForm ∧ spki.WellFormed := by
  rw [read?_eq_some_iff, and_congr_left_iff]
  intro _
  constructor
  · rintro rfl
    have hroom := spki.room_le_length_write
    exact write_eq_shortForm (by omega)
  · rintro rfl
    rw [length_shortForm] at hlength
    exact (write_eq_shortForm (by omega)).symm

end Spki

theorem Ed25519.verify_of_length {message key signature : Bytes} (h : key.length ≠ 32) :
    Ed25519.verify message key signature = false := by
  rw [verify, Point.decode?, if_neg h]
  split_ifs <;> rfl

/-- A raw key is kept, and signatures are checked with it, unless its 32 bytes are a wrapped key in the
short form. Then they are unwrapped: the key inside has at most 20 bytes, and nothing verifies. -/
theorem raw_key_kept_unless_wrapped (k : Bytes) (hlength : k.length = 32) :
    ((∀ spki : Spki, spki.WellFormed → k ≠ spki.shortForm) →
      Suite.ed25519.nativeKey? k = some k ∧
        ∀ message signature,
          Suite.ed25519.verify message k signature = Ed25519.verify message k signature) ∧
    ∀ spki : Spki, spki.WellFormed → k = spki.shortForm →
      Suite.ed25519.nativeKey? k =
          (if spki.algorithm = Suite.ed25519.algorithm ∧ spki.unusedBits = 0 then some spki.key
            else none) ∧
        spki.key.length ≤ 20 ∧
        ∀ message signature, Suite.ed25519.verify message k signature = false := by
  refine ⟨?raw, ?wrapped⟩
  case raw =>
    intro hraw
    have hread : Spki.read? k = none := by
      refine Option.eq_none_iff_forall_ne_some.2 fun spki hread => ?_
      obtain ⟨hform, hparts⟩ := (Spki.read?_eq_some_iff_shortForm hlength).1 hread
      exact hraw spki hparts hform
    have hunmark : Suite.ed25519.unmark k = k :=
      Suite.unmark_of_length rfl (by rw [hlength]; decide)
    have hnative : Suite.ed25519.nativeKey? k = some k := by
      rw [Suite.nativeKey?_of_read?_eq_none hread, hunmark]
    exact ⟨hnative, fun _ _ => Suite.verify_of_nativeKey? hnative⟩
  case wrapped =>
    intro spki hparts hform
    have hread := (Spki.read?_eq_some_iff_shortForm hlength).2 ⟨hform, hparts⟩
    have hnative : Suite.ed25519.nativeKey? k =
        if spki.algorithm = Suite.ed25519.algorithm ∧ spki.unusedBits = 0 then some spki.key else none :=
      Suite.nativeKey?_of_read? hread
    have hroom : spki.room + 9 = 32 := by rw [← spki.length_shortForm, ← hform, hlength]
    have halgorithm := Spki.length_algorithm_ge hparts.algorithm
    have hshort : spki.key.length ≤ 20 := by
      rw [Spki.room] at hroom
      omega
    refine ⟨hnative, hshort, fun message signature => ?_⟩
    rw [Suite.verify, hnative]
    split_ifs
    · exact Ed25519.verify_of_length (by omega)
    · rfl

namespace Ed25519

/-- A key of 20 bytes, wrapped. -/
def disguisedSpki : Spki :=
  Suite.ed25519.wrap (List.replicate 19 0x00 ++ [0x0d])

/-- The bytes of that wrapped key. They encode a point of the base point's order as well. -/
def disguisedKey : Bytes :=
  disguisedSpki.shortForm

/-- The neutral point is kept as a raw key, and with the disguised key nothing verifies. -/
theorem neutralKey_kept_disguisedKey_refused :
    (neutralKey.length = 32 ∧ ∀ spki : Spki, spki.WellFormed → neutralKey ≠ spki.shortForm) ∧
    Suite.ed25519.nativeKey? neutralKey = some neutralKey ∧
    (disguisedKey.length = 32 ∧ disguisedSpki.WellFormed) ∧
    ∀ message signature, Suite.ed25519.verify message disguisedKey signature = false := by
  have hneutral : ∀ spki : Spki, spki.WellFormed → neutralKey ≠ spki.shortForm := by
    intro spki _ hform
    have hfirst : (0x01 : UInt8) = 0x30 := (List.cons.inj hform).1
    exact absurd hfirst (by decide)
  have hparts : disguisedSpki.WellFormed :=
    Suite.wrap_wellFormed (Suite.admits_content_wrap _ (by decide))
  obtain ⟨hraw, -⟩ := raw_key_kept_unless_wrapped neutralKey (by decide)
  obtain ⟨-, hwrapped⟩ := raw_key_kept_unless_wrapped disguisedKey (by decide)
  exact ⟨⟨by decide, hneutral⟩, (hraw hneutral).1, ⟨by decide, hparts⟩,
    (hwrapped disguisedSpki hparts rfl).2.2⟩

/-- Not every raw key is kept: of a point of the base point's order only the last 20 bytes are left. -/
theorem disguisedKey_unwrapped :
    disguisedKey.length = 32 ∧
    ((Point.decode? disguisedKey).map fun point => (Point.mul order point).encode) =
      some Point.zero.encode ∧
    Suite.ed25519.nativeKey? disguisedKey = some (disguisedKey.drop 12) ∧
    Suite.ed25519.nativeKey? disguisedKey ≠ some disguisedKey := by
  have hnative : Suite.ed25519.nativeKey? disguisedKey = some (disguisedKey.drop 12) := by
    decide +kernel
  refine ⟨by decide, by decide +kernel, hnative, ?_⟩
  rw [hnative]
  decide

end Ed25519

/-! ## Parameters -/

namespace Suite

variable {suite : Suite} {message key signature parameter : Bytes} {spki : Spki}

/-- With a wrapped key of the suite's algorithm, signatures are checked with the key inside, if all of its
bits count. -/
theorem verify_of_read? (h : Spki.read? key = some spki) (halgorithm : spki.algorithm = suite.algorithm) :
    suite.verify message key signature =
      (spki.unusedBits == 0 && suite.verifyNative message spki.key signature) := by
  rw [verify, nativeKey?_of_read? h]
  by_cases hunused : spki.unusedBits = 0
  · simp [halgorithm, hunused]
  · simp [hunused]

/-- Another parameter makes another wrapped key, of the same key. -/
theorem verify_with_parameter (h : Spki.read? key = some spki)
    (halgorithm : spki.algorithm = suite.algorithm)
    (hother : ({ spki with parameter := parameter } : Spki).WellFormed) :
    suite.verify message ({ spki with parameter := parameter } : Spki).write signature =
      suite.verify message key signature := by
  have hread := Spki.read?_eq_some_iff.2 ⟨rfl, hother⟩
  rw [verify_of_read? hread halgorithm, verify_of_read? h halgorithm]

end Suite

theorem Secp256k1.verify_of_no_point {message key signature : Bytes} (h : Point.read? key = none) :
    Secp256k1.verify message key signature = false := by
  rw [verify, h]

/-- Every wrapped key of the algorithm of elliptic curves is unwrapped to its key, whatever its parameter
is: it verifies what the key verifies, and the same as with any other parameter. What keeps it from
verifying anything is that not all of its bits count, or that its key is no point of the one curve. -/
theorem parameter_ignored (key : Bytes) (spki : Spki) (hread : Spki.read? key = some spki)
    (halgorithm : spki.algorithm = Suite.secp256k1.algorithm) :
    Suite.secp256k1.nativeKey? key = (if spki.unusedBits = 0 then some spki.key else none) ∧
    (∀ message signature, Suite.secp256k1.verify message key signature =
      (spki.unusedBits == 0 && Secp256k1.verify message spki.key signature)) ∧
    (∀ parameter, ({ spki with parameter := parameter } : Spki).WellFormed →
      ∀ message signature,
        Suite.secp256k1.verify message ({ spki with parameter := parameter } : Spki).write signature =
          Suite.secp256k1.verify message key signature) ∧
    (spki.unusedBits ≠ 0 ∨ Secp256k1.Point.read? spki.key = none →
      ∀ message signature, Suite.secp256k1.verify message key signature = false) := by
  have hverify (message signature : Bytes) : Suite.secp256k1.verify message key signature =
      (spki.unusedBits == 0 && Secp256k1.verify message spki.key signature) :=
    Suite.verify_of_read? hread halgorithm
  refine ⟨?native, hverify, ?parameter, ?unusable⟩
  case native =>
    rw [Suite.nativeKey?_of_read? hread]
    simp only [halgorithm, true_and]
  case parameter =>
    intro parameter hother message signature
    exact Suite.verify_with_parameter hread halgorithm hother
  case unusable =>
    rintro (hunused | hpoint) message signature
    · simp [hverify, hunused]
    · simp [hverify, Secp256k1.verify_of_no_point hpoint]

namespace Secp256k1

/-- The identifier of a curve of the same size over another field. -/
def otherCurve : Bytes :=
  Der.element Der.objectIdentifierTag [0x2a, 0x86, 0x48, 0xce, 0x3d, 0x03, 0x01, 0x07]

/-- The base point, wrapped with the given parameter. -/
def wrappedBase (parameter : Bytes) : Spki :=
  { Suite.secp256k1.wrap baseKey with parameter := parameter }

theorem wrappedBase_wellFormed {parameter : Bytes} (h : parameter = [] ∨ parameter = otherCurve) :
    (wrappedBase parameter).WellFormed where
  algorithm := Suite.secp256k1.isObjectIdentifier_algorithm
  parameter := by rcases h with rfl | rfl <;> decide
  unusedBits := UInt8.le_of_lt (show (0 : UInt8) < 7 by decide)
  key := .inl rfl
  length := .inl (by rcases h with rfl | rfl <;> decide)

/-- The base point verifies its signature also when it is wrapped for the other curve, or for none. A key
of no bytes, wrapped in the same way, verifies nothing. -/
theorem otherCurve_ignored :
    (Spki.read? (wrappedBase otherCurve).write = some (wrappedBase otherCurve) ∧
      (wrappedBase otherCurve).algorithm = Suite.secp256k1.algorithm) ∧
    Suite.secp256k1.nativeKey? (wrappedBase otherCurve).write = some baseKey ∧
    Suite.secp256k1.verify [] (wrappedBase otherCurve).write baseSignature = true ∧
    ((wrappedBase []).WellFormed ∧
      Suite.secp256k1.verify [] (wrappedBase []).write baseSignature = true) ∧
    ∀ message signature, Suite.secp256k1.verify message
      ({ wrappedBase otherCurve with key := [] } : Spki).write signature = false := by
  have hread : Spki.read? (wrappedBase otherCurve).write = some (wrappedBase otherCurve) :=
    Spki.read?_eq_some_iff.2 ⟨rfl, wrappedBase_wellFormed (.inr rfl)⟩
  have hempty : Spki.read? ({ wrappedBase otherCurve with key := [] } : Spki).write =
      some { wrappedBase otherCurve with key := [] } := by
    decide +kernel
  have hnone : (wrappedBase []).WellFormed := wrappedBase_wellFormed (.inl rfl)
  have hbase : ((wrappedBase otherCurve).unusedBits == 0 &&
      Secp256k1.verify [] (wrappedBase otherCurve).key baseSignature) = true := by
    decide +kernel
  obtain ⟨hnative, hverify, hother, -⟩ := parameter_ignored _ _ hread rfl
  obtain ⟨-, -, -, hunusable⟩ := parameter_ignored _ _ hempty rfl
  have hverified := (hverify [] baseSignature).trans hbase
  exact ⟨⟨hread, rfl⟩, hnative, hverified, ⟨hnone, (hother [] hnone [] baseSignature).trans hverified⟩,
    hunusable (.inr rfl)⟩

/-- Wrapped for another curve, or for none, the base point has a native form, and its signature verifies. -/
theorem wrappedBase_verifies_for_other_curves :
    otherCurve ≠ Suite.secp256k1.parameter ∧
    ∀ parameter ∈ [[], otherCurve],
      Spki.read? (wrappedBase parameter).write = some (wrappedBase parameter) ∧
      Suite.secp256k1.nativeKey? (wrappedBase parameter).write ≠ none ∧
      Suite.secp256k1.verify [] (wrappedBase parameter).write baseSignature = true := by
  decide +kernel

end Secp256k1

end DidAdmission
