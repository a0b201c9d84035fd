-- SUMMARY: A wrapped key is read just if it is written by its parts, and no pair of integers is a wrapped key.
import DidAdmission.Codec.Spki
import DidAdmission.Proofs.Codec.StrictReading

/-!
# Wrapped keys

The reader of wrapped keys is strict as well: it takes what is written for a wrapped key whose parts are
in order (`Spki.WellFormed`), and nothing else. So a wrapped key is told by its first two tags from every
other form of a key.
-/

namespace DidAdmission.Spki

open Der hiding sequence

variable {spki : Spki} {b : Bytes}

/-- What the outermost element of a wrapped key holds. -/
def content (spki : Spki) : Bytes :=
  Der.sequence [element objectIdentifierTag spki.algorithm, spki.parameter]
    ++ element bitStringTag (spki.unusedBits :: spki.key)

theorem content_eq (spki : Spki) : spki.content =
    element sequenceTag (element objectIdentifierTag spki.algorithm ++ spki.parameter)
      ++ element bitStringTag (spki.unusedBits :: spki.key) := by
  rw [content, Der.sequence, List.flatten_cons, List.flatten_singleton]

/-- The parts of a wrapped key are in order. -/
structure WellFormed (spki : Spki) : Prop where
  algorithm : isObjectIdentifier spki.algorithm = true
  parameter : isParameter spki.parameter = true
  unusedBits : spki.unusedBits ≤ 7
  key : spki.unusedBits = 0 ∨ spki.key ≠ []
  length : limit.Admits spki.content.length

theorem write_eq_element (spki : Spki) : spki.write = element sequenceTag spki.content := by
  rw [write, Der.sequence, List.flatten_cons, List.flatten_singleton, content]

/-- The lengths inside are admitted where the outermost one is. -/
theorem WellFormed.inner_lengths (h : limit.Admits spki.content.length) :
    limit.Admits (element objectIdentifierTag spki.algorithm ++ spki.parameter).length ∧
      limit.Admits spki.algorithm.length ∧ limit.Admits (spki.unusedBits :: spki.key).length := by
  rw [content_eq] at h
  have hfirst := length_le_element sequenceTag
    (element objectIdentifierTag spki.algorithm ++ spki.parameter)
  have hidentifier := length_le_element objectIdentifierTag spki.algorithm
  have hbits := length_le_element bitStringTag (spki.unusedBits :: spki.key)
  simp only [List.length_append] at h hfirst ⊢
  exact ⟨h.of_le (by omega), h.of_le (by omega), h.of_le (by omega)⟩

theorem read?_eq_some_iff : read? b = some spki ↔ b = spki.write ∧ spki.WellFormed := by
  constructor
  · intro h
    simp only [read?, Option.bind_eq_bind, Option.bind_eq_some_iff, Prod.exists] at h
    obtain ⟨outer, houter, algorithm, rest, halgorithm, identifier, parameter, hidentifier, bits,
      hbits, h⟩ := h
    obtain ⟨rfl, hlength⟩ := only?_eq_some_iff.1 houter
    obtain ⟨rfl, -⟩ := expect?_eq_some_iff.1 halgorithm
    obtain ⟨rfl, -⟩ := expect?_eq_some_iff.1 hidentifier
    obtain ⟨rfl, -⟩ := only?_eq_some_iff.1 hbits
    split_ifs at h with hparts
    split at h
    · cases h
    · next unused key =>
      split_ifs at h with hunused
      obtain rfl := Option.some.inj h
      rw [Bool.and_eq_true] at hparts
      simp only [not_or, not_and, UInt8.not_lt, ne_eq] at hunused
      refine ⟨by simp [write, Der.sequence], hparts.1, hparts.2, hunused.1, ?_, ?_⟩
      · by_cases hzero : unused = 0
        · exact .inl hzero
        · exact .inr (by simpa using hunused.2 hzero)
      · simpa [content, Der.sequence] using hlength
  · rintro ⟨rfl, h⟩
    obtain ⟨hfirst, hidentifier, hbits⟩ := WellFormed.inner_lengths h.length
    have houter : only? limit sequenceTag spki.write = some spki.content :=
      only?_eq_some_iff.2 ⟨spki.write_eq_element, h.length⟩
    have halgorithm : expect? limit sequenceTag spki.content =
        some (element objectIdentifierTag spki.algorithm ++ spki.parameter,
          element bitStringTag (spki.unusedBits :: spki.key)) :=
      expect?_eq_some_iff.2 ⟨by simp [content, Der.sequence], hfirst⟩
    have hunused : ¬ (7 < spki.unusedBits ∨ spki.unusedBits ≠ 0 ∧ spki.key.isEmpty = true) := by
      rintro (hlarge | ⟨hne, hempty⟩)
      · exact UInt8.not_lt.2 h.unusedBits hlarge
      · exact h.key.elim hne fun hkey => hkey (List.isEmpty_iff.1 hempty)
    have hparts : (isObjectIdentifier spki.algorithm && isParameter spki.parameter) = true := by
      rw [h.algorithm, h.parameter]
      rfl
    simp only [read?, Option.bind_eq_bind, Option.bind_some, houter, halgorithm,
      expect?_eq_some_iff.2 ⟨rfl, hidentifier⟩, only?_eq_some_iff.2 ⟨rfl, hbits⟩, if_pos hparts,
      if_neg hunused]

/-- A wrapped key starts with the tag of a sequence. -/
theorem read?_eq_none_of_head? (h : b.head? ≠ some sequenceTag) : read? b = none := by
  refine Option.eq_none_iff_forall_ne_some.2 fun spki hread => h ?_
  obtain ⟨rfl, -⟩ := read?_eq_some_iff.1 hread
  rw [write_eq_element]
  rfl

/-- What a wrapped key holds starts with a sequence, and what a pair of integers holds with an integer. -/
theorem read?_integerPair (x y : Bytes) : read? (integerPair x y) = none := by
  refine Option.eq_none_iff_forall_ne_some.2 fun spki hread => ?_
  obtain ⟨hwrite, -⟩ := read?_eq_some_iff.1 hread
  rw [write_eq_element, integerPair, Der.sequence, element_inj] at hwrite
  have htag : integerTag = sequenceTag := (List.cons.inj hwrite.2).1
  exact absurd htag (by decide)

end DidAdmission.Spki
