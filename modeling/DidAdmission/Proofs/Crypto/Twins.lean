-- SUMMARY: A signature and its twin, whose second scalar has the opposite sign, verify alike in all their encodings.
import DidAdmission.Proofs.Crypto.KeyForms
import DidAdmission.Proofs.Crypto.SignatureForms

/-!
# Twin signatures

The second scalar of a signature may be replaced by its negation modulo the order. Of the two pairs one is
low, and it is the one that is checked: the order is odd, so the bound lies between the twins. What is read
from a signature therefore counts only up to this choice (`twins_verify_alike`).
-/

namespace DidAdmission

namespace Secp256k1

namespace Scalars

variable {g : Scalars}

/-- The pair with the other value of the second scalar. -/
def twin (g : Scalars) : Scalars :=
  ⟨g.r, order - g.s⟩

/-- The second scalar is the lesser one of its two values. -/
def IsLow (g : Scalars) : Prop :=
  2 * g.s < order

theorem order_odd : order % 2 = 1 := by decide

theorem isInRange_twin (h : g.isInRange = true) : g.twin.isInRange = true := by
  obtain ⟨hr, hs⟩ := isInRange_iff.1 h
  refine isInRange_iff.2 ⟨hr, ?_⟩
  simp only [twin]
  omega

theorem twin_twin (h : g.isInRange = true) : g.twin.twin = g := by
  obtain ⟨-, hs⟩ := isInRange_iff.1 h
  have hback : order - (order - g.s) = g.s := by omega
  rw [twin, twin, hback]

theorem isLow_iff : g.IsLow ↔ g.s ≤ order / 2 := by
  have hodd := order_odd
  rw [IsLow]
  omega

/-- Just one of two twins is low. -/
theorem isLow_twin (h : g.isInRange = true) : g.twin.IsLow ↔ ¬ g.IsLow := by
  obtain ⟨-, hs⟩ := isInRange_iff.1 h
  have hodd := order_odd
  simp only [IsLow, twin]
  omega

theorem normalize_of_isLow (h : g.IsLow) : g.normalize = g := by
  rw [normalize, if_neg (Nat.not_lt.2 (isLow_iff.1 h))]

theorem normalize_of_not_isLow (h : ¬ g.IsLow) : g.normalize = g.twin := by
  rw [normalize, if_pos (Nat.not_le.1 (mt isLow_iff.2 h)), twin]

/-- The low one of two twins is what both are brought to. -/
theorem exists_low (h : g.isInRange = true) :
    ∃ low : Scalars, (low = g ∨ low = g.twin) ∧ low.IsLow ∧
      g.normalize = low ∧ g.twin.normalize = low := by
  by_cases hlow : g.IsLow
  · have hhigh : ¬ g.twin.IsLow := fun htwin => (isLow_twin h).1 htwin hlow
    refine ⟨g, .inl rfl, hlow, normalize_of_isLow hlow, ?_⟩
    rw [normalize_of_not_isLow hhigh, twin_twin h]
  · have hlow' : g.twin.IsLow := (isLow_twin h).2 hlow
    exact ⟨g.twin, .inr rfl, hlow', normalize_of_not_isLow hlow, normalize_of_isLow hlow'⟩

/-- The bound lies between the two middle scalars, which are twins. -/
example : (⟨1, (order + 1) / 2⟩ : Scalars).normalize = ⟨1, (order - 1) / 2⟩ := by decide

example : (⟨1, (order - 1) / 2⟩ : Scalars).normalize = ⟨1, (order - 1) / 2⟩ := by decide

end Scalars

variable {message key signature : Bytes} {g : Scalars}

/-- Does the pair, as it is, verify over the message under the key? -/
def verifyPair (message key : Bytes) (g : Scalars) : Bool :=
  (Point.read? key).any fun point =>
    verifyDigest (Bytes.toNat (Sha2.sha256.digest message) % order) point g

theorem verify_of_read? (h : Scalars.read? signature = some g) :
    verify message key signature = verifyPair message key g.normalize := by
  rw [verify, verifyPair, h]
  cases Point.read? key with
  | none => rfl
  | some point => rfl

end Secp256k1

open Secp256k1 (Scalars verifyPair)
open Secp256k1.Scalars (IsDerSignature)

theorem Suite.verify_secp256k1_of_read? {message key signature : Bytes} {g : Scalars}
    (h : Scalars.read? signature = some g) :
    Suite.secp256k1.verify message key signature =
      (Suite.secp256k1.nativeKey? key).any fun native => verifyPair message native g.normalize := by
  rw [verify]
  cases Suite.secp256k1.nativeKey? key with
  | none => rfl
  | some native => exact Secp256k1.verify_of_read? h

/-- All encodings of a pair and of its twin get one answer, that of the low one of the two: their
distinguished encodings always, and their 64 bytes unless these are distinguished encodings themselves. -/
theorem twins_verify_alike (message key : Bytes) (g : Scalars) (h : g.isInRange = true) :
    Suite.secp256k1.verify message key g.der = Suite.secp256k1.verify message key g.twin.der ∧
    (¬ IsDerSignature g.compact → ¬ IsDerSignature g.twin.compact →
      Suite.secp256k1.verify message key g.compact =
        Suite.secp256k1.verify message key g.twin.compact) ∧
    (¬ IsDerSignature g.compact →
      Suite.secp256k1.verify message key g.compact = Suite.secp256k1.verify message key g.der) ∧
    ∃ low : Scalars, (low = g ∨ low = g.twin) ∧ low.IsLow ∧
      Suite.secp256k1.verify message key g.der =
        (Suite.secp256k1.nativeKey? key).any fun native => verifyPair message native low := by
  have htwin := Scalars.isInRange_twin h
  obtain ⟨low, hchoice, hlow, hnormal, htwinNormal⟩ := Scalars.exists_low h
  have hanswer {signature : Bytes} (hread : Scalars.read? signature = some g) :
      Suite.secp256k1.verify message key signature =
        (Suite.secp256k1.nativeKey? key).any fun native => verifyPair message native low :=
    hnormal ▸ Suite.verify_secp256k1_of_read? hread
  have htwinAnswer {signature : Bytes} (hread : Scalars.read? signature = some g.twin) :
      Suite.secp256k1.verify message key signature =
        (Suite.secp256k1.nativeKey? key).any fun native => verifyPair message native low :=
    htwinNormal ▸ Suite.verify_secp256k1_of_read? hread
  have hder := hanswer (Scalars.read?_der h)
  refine ⟨?der, ?compact, ?mixed, low, hchoice, hlow, hder⟩
  case der => rw [hder, htwinAnswer (Scalars.read?_der htwin)]
  case compact =>
    intro hplain htwinPlain
    rw [hanswer (Scalars.read?_compact h hplain), htwinAnswer (Scalars.read?_compact htwin htwinPlain)]
  case mixed =>
    intro hplain
    rw [hanswer (Scalars.read?_compact h hplain), hder]

/-! ## A signature and its twin -/

namespace Secp256k1

/-- The signature of the base point over no bytes, as a pair. -/
def basePair : Scalars :=
  ⟨Point.base.x, (Bytes.toNat (Sha2.sha256.digest []) + Point.base.x) % order⟩

/-- The pair verifies in both encodings, and so does its twin. -/
theorem basePair_verifies_with_twin :
    (basePair.isInRange = true ∧ ¬ IsDerSignature basePair.compact ∧
      ¬ IsDerSignature basePair.twin.compact) ∧
    Suite.secp256k1.verify [] baseKey basePair.der = true ∧
    Suite.secp256k1.verify [] baseKey basePair.twin.der = true ∧
    Suite.secp256k1.verify [] baseKey basePair.compact = true ∧
    Suite.secp256k1.verify [] baseKey basePair.twin.compact = true := by
  have hrange : basePair.isInRange = true := by decide +kernel
  have hplain : ¬ IsDerSignature basePair.compact :=
    Scalars.not_isDerSignature_of_head? (by decide +kernel)
  have htwinPlain : ¬ IsDerSignature basePair.twin.compact :=
    Scalars.not_isDerSignature_of_head? (by decide +kernel)
  have hcompact : Suite.secp256k1.verify [] baseKey basePair.compact = true := by decide +kernel
  obtain ⟨hder, hcompacts, hmixed, -⟩ := twins_verify_alike [] baseKey basePair hrange
  have hverified := (hmixed hplain).symm.trans hcompact
  exact ⟨⟨hrange, hplain, htwinPlain⟩, hverified, hder.symm.trans hverified, hcompact,
    (hcompacts hplain htwinPlain).symm.trans hcompact⟩

end Secp256k1

end DidAdmission
