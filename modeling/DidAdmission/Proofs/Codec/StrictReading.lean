-- SUMMARY: The strict reader takes nothing but what the writer writes, so an encoding stands for one value.
import DidAdmission.Proofs.Codec.Distinguished
import Mathlib.Data.List.DropRight

/-!
# Strict reading

Each reader of the distinguished encoding is the inverse of a writer: it takes some bytes just if they
are written for its answer, and the length is one that it admits. So bytes are written for one content
only, and the bytes of an element end where the element ends.
-/

namespace DidAdmission.Der

variable {limit : Limit} {n m : Nat} {tag tag' : UInt8} {b content content' rest rest' : Bytes}

/-! ## Lengths -/

theorem lt_128_iff {x : UInt8} : x < 0x80 ↔ x.toNat < 128 :=
  UInt8.lt_iff_toNat_lt

/-- A number of one byte is that byte. -/
theorem lengthOctets_toNat {x : UInt8} (h : x < 0x80) : lengthOctets x.toNat = [x] := by
  rw [lengthOctets, if_pos (lt_128_iff.1 h), UInt8.ofNat_toNat]

theorem lengthOctets_of_le (h : ¬ n < 128) :
    lengthOctets n = UInt8.ofNat (128 + (Bytes.ofNat n).length) :: Bytes.ofNat n :=
  if_neg h

theorem ofNat_toNat_of_head? (h : b.head? ≠ some 0) : Bytes.ofNat b.toNat = b := by
  rw [Bytes.ofNat_toNat]
  cases b with
  | nil => rfl
  | cons x b =>
    have hx : x ≠ 0 := by simpa using h
    exact List.dropWhile_cons_of_neg (by simpa using hx)

theorem readLength?_eq_some_iff :
    readLength? limit b = some (n, rest) ↔ b = lengthOctets n ++ rest ∧ limit.Admits n := by
  constructor
  · intro h
    cases b with
    | nil => cases h
    | cons first tail =>
      simp only [readLength?] at h
      split_ifs at h with hshort hcount hlong
      · obtain ⟨rfl, rfl⟩ : first.toNat = n ∧ tail = rest := by simpa using h
        exact ⟨by rw [lengthOctets_toNat hshort]; rfl, .inl (lt_128_iff.1 hshort)⟩
      · simp only [Option.some.injEq, Prod.mk.injEq] at h
        obtain ⟨hn, hrest⟩ := h
        simp only [not_or, Decidable.not_not] at hcount hlong
        obtain ⟨hsome, hoctets, hall⟩ := hcount
        obtain ⟨hlarge, hfirst, hlimit⟩ := hlong
        have hlow : 128 ≤ first.toNat := Nat.not_lt.1 (mt lt_128_iff.2 hshort)
        have hhigh := first.toNat_lt
        have hwritten := ofNat_toNat_of_head? hfirst
        rw [hn] at hwritten hlarge hlimit
        refine ⟨?_, .inr ?_⟩
        · have hmark : UInt8.ofNat (128 + (first.toNat - 128)) = first := by
            rw [Nat.add_sub_cancel' hlow, UInt8.ofNat_toNat]
          rw [lengthOctets_of_le hlarge, hwritten, hall, hmark, ← hrest, List.cons_append,
            List.take_append_drop]
        · rw [hwritten, hall]
          omega
  · rintro ⟨rfl, hlimit⟩
    exact readLength?_lengthOctets hlimit rest

/-! ## Elements -/

theorem readElement?_eq_some_iff :
    readElement? limit b = some (tag, content, rest) ↔
      b = element tag content ++ rest ∧ limit.Admits content.length := by
  constructor
  · intro h
    cases b with
    | nil => cases h
    | cons first tail =>
      rw [readElement?] at h
      split at h
      · cases h
      · next length after hread =>
        obtain ⟨rfl, hlimit⟩ := readLength?_eq_some_iff.1 hread
        split_ifs at h with hshort
        simp only [Option.some.injEq, Prod.mk.injEq] at h
        obtain ⟨rfl, rfl, rfl⟩ := h
        have hlength : (after.take length).length = length := by
          rw [List.length_take]
          omega
        refine ⟨?_, hlength.symm ▸ hlimit⟩
        rw [element, hlength, List.cons_append, List.append_assoc, List.take_append_drop]
  · rintro ⟨rfl, hlimit⟩
    simp [readElement?, element, readLength?_lengthOctets hlimit]

theorem expect?_eq_some_iff :
    expect? limit tag b = some (content, rest) ↔
      b = element tag content ++ rest ∧ limit.Admits content.length := by
  rw [← readElement?_eq_some_iff, expect?]
  cases readElement? limit b with
  | none => simp
  | some found =>
    obtain ⟨found, content', rest'⟩ := found
    by_cases h : found = tag
    · simp [h]
    · simp [h]

theorem only?_eq_some_iff :
    only? limit tag b = some content ↔ b = element tag content ∧ limit.Admits content.length := by
  have hall : expect? limit tag b = some (content, []) ↔
      b = element tag content ∧ limit.Admits content.length := by
    rw [expect?_eq_some_iff, List.append_nil]
  rw [← hall, only?]
  split
  · next h => simp [h]
  · next h =>
    exact iff_of_false (by simp) fun hread => h content hread

/-- A longer content has a longer element. -/
theorem length_element_lt (h : content.length < content'.length) (tag tag' : UInt8) :
    (element tag content).length < (element tag' content').length := by
  have hoctets := Bytes.length_ofNat_mono h.le
  unfold element lengthOctets
  split_ifs
  all_goals
    simp only [List.length_cons, List.length_append, List.length_nil]
    omega

/-- Elements of any length tell their contents. -/
theorem element_inj : element tag content = element tag' content' ↔ tag = tag' ∧ content = content' := by
  constructor
  · intro h
    have hlength := congrArg List.length h
    have hsame : content.length = content'.length := by
      rcases lt_trichotomy content.length content'.length with hlt | heq | hlt
      · exact absurd hlength (length_element_lt hlt tag tag').ne
      · exact heq
      · exact absurd hlength (length_element_lt hlt tag' tag).ne'
    rw [element, element, hsame, List.cons.injEq] at h
    exact ⟨h.1, List.append_cancel_left h.2⟩
  · rintro ⟨rfl, rfl⟩
    rfl

/-- What follows an element does not change it. -/
theorem element_append_inj (h : limit.Admits content.length) (h' : limit.Admits content'.length) :
    element tag content ++ rest = element tag' content' ++ rest' ↔
      tag = tag' ∧ content = content' ∧ rest = rest' := by
  constructor
  · intro heq
    have hread : readElement? limit (element tag content ++ rest) = some (tag, content, rest) :=
      readElement?_eq_some_iff.2 ⟨rfl, h⟩
    rw [readElement?_eq_some_iff.2 ⟨heq, h'⟩] at hread
    simpa [eq_comm] using hread
  · rintro ⟨rfl, rfl, rfl⟩
    rfl

/-! ## Integers -/

/-- The content of an integer is that of its value. -/
theorem unsignedContent_ofNat_toNat (b : Bytes) :
    unsignedContent (Bytes.ofNat b.toNat) = unsignedContent b := by
  rw [unsignedContent, Bytes.ofNat_toNat, List.dropWhile_idempotent]
  rfl

theorem unsignedContent_eq_self_of_unsignedValue? (h : unsignedValue? content = some n) :
    unsignedContent content = content ∧ content.toNat = n := by
  unfold unsignedValue? at h
  split at h
  · cases h
  · next x =>
    split_ifs at h with hlow
    obtain rfl := Option.some.inj h
    refine ⟨?_, Bytes.toNat_singleton x⟩
    by_cases hzero : x = 0
    · rw [hzero]
      rfl
    · rw [unsignedContent, List.dropWhile_cons_of_neg (by simpa using hzero)]
      exact if_neg (UInt8.not_le.2 hlow)
  · next first second tail =>
    split_ifs at h with hbad
    obtain rfl := Option.some.inj h
    refine ⟨?_, rfl⟩
    simp only [not_or, not_and, UInt8.not_le, UInt8.not_lt] at hbad
    obtain ⟨hlow, hpad⟩ := hbad
    by_cases hzero : first = 0
    · -- The zero in front is there because of the bit after it.
      have hsecond := hpad hzero
      have hne : second ≠ 0 := by
        rintro rfl
        exact absurd hsecond (by decide)
      rw [unsignedContent, List.dropWhile_cons_of_pos (by simpa using hzero),
        List.dropWhile_cons_of_neg (by simpa using hne), hzero]
      exact if_pos hsecond
    · rw [unsignedContent, List.dropWhile_cons_of_neg (by simpa using hzero)]
      exact if_neg (UInt8.not_le.2 hlow)

theorem unsignedValue?_eq_some_iff :
    unsignedValue? content = some n ↔ content = unsignedContent (Bytes.ofNat n) := by
  constructor
  · intro h
    obtain ⟨hsame, rfl⟩ := unsignedContent_eq_self_of_unsignedValue? h
    rw [unsignedContent_ofNat_toNat, hsame]
  · rintro rfl
    rw [unsignedValue?_unsignedContent, Bytes.toNat_ofNat]

theorem unsignedContent_inj {a b : Bytes} : unsignedContent a = unsignedContent b ↔ a.toNat = b.toNat := by
  constructor
  · intro h
    have hvalue := unsignedValue?_unsignedContent a
    rw [h, unsignedValue?_unsignedContent] at hvalue
    exact (Option.some.inj hvalue).symm
  · intro h
    rw [← unsignedContent_ofNat_toNat a, h, unsignedContent_ofNat_toNat]

theorem readUnsigned?_eq_some_iff :
    readUnsigned? limit b = some (n, rest) ↔
      b = unsignedInteger (Bytes.ofNat n) ++ rest ∧
        limit.Admits (unsignedContent (Bytes.ofNat n)).length := by
  rw [unsignedInteger, ← expect?_eq_some_iff, readUnsigned?]
  cases hread : expect? limit integerTag b with
  | none => simp
  | some found =>
    obtain ⟨content, after⟩ := found
    simp [unsignedValue?_eq_some_iff]

/-- A strict reader takes nothing but what is written for the integers it answers. -/
theorem readIntegerPair?_eq_some_iff :
    readIntegerPair? limit b = some (n, m) ↔
      b = integerPair (Bytes.ofNat n) (Bytes.ofNat m) ∧
        limit.Admits (unsignedInteger (Bytes.ofNat n) ++ unsignedInteger (Bytes.ofNat m)).length := by
  constructor
  · intro h
    simp only [readIntegerPair?, Option.bind_eq_bind, Option.bind_eq_some_iff, Prod.exists] at h
    obtain ⟨content, hcontent, x, after, hx, y, rest, hy, h⟩ := h
    split_ifs at h with hrest
    obtain ⟨rfl, rfl⟩ : x = n ∧ y = m := by simpa using h
    obtain ⟨rfl, hlimit⟩ := only?_eq_some_iff.1 hcontent
    obtain ⟨rfl, -⟩ := readUnsigned?_eq_some_iff.1 hx
    obtain ⟨rfl, -⟩ := readUnsigned?_eq_some_iff.1 hy
    obtain rfl := List.isEmpty_iff.1 hrest
    rw [List.append_nil] at hlimit ⊢
    exact ⟨by simp [integerPair, sequence], hlimit⟩
  · rintro ⟨rfl, hlimit⟩
    rw [readIntegerPair?_integerPair hlimit, Bytes.toNat_ofNat, Bytes.toNat_ofNat]

end DidAdmission.Der
