-- SUMMARY: What the distinguished encoding writes is read back by its strict reader.
import DidAdmission.Codec.Der
import DidAdmission.Proofs.Codec.Radix

/-!
# Distinguished encoding, read back

A reader with a limit reads what the writer writes, as long as it admits the length of the outermost
content (`Limit.Admits`): the lengths inside are not greater.
-/

namespace DidAdmission

theorem Bytes.length_ofNat_mono {m n : Nat} (h : m ≤ n) :
    (Bytes.ofNat m).length ≤ (Bytes.ofNat n).length := by
  simp only [Bytes.ofNat, Digits.ofNat_eq_digits (le_refl 2 |>.trans (by decide : 2 ≤ 256)),
    List.length_map, List.length_reverse]
  exact Nat.le_length_digits_le 256 m n h

namespace Der

variable {limit : Limit} {n m : Nat} {tag : UInt8} {content rest : Bytes}

/-! ## Lengths -/

/-- The reader admits the length: in one octet, or in so many more that the first one can count them. -/
def Limit.Admits (limit : Limit) (n : Nat) : Prop :=
  n < 128 ∨ ((Bytes.ofNat n).length ≤ limit.octets ∧ (Bytes.ofNat n).length < 128 ∧ n ≤ limit.length)

theorem Limit.Admits.of_le (h : limit.Admits n) (hle : m ≤ n) : limit.Admits m := by
  have hlength := Bytes.length_ofNat_mono hle
  rcases h with hshort | ⟨hoctets, hcount, hlimit⟩
  · exact .inl (by omega)
  · exact .inr ⟨by omega, by omega, by omega⟩

theorem ofNat_ne_nil (h : 128 ≤ n) : Bytes.ofNat n ≠ [] := by
  intro hnil
  have hn := Bytes.toNat_ofNat n
  rw [hnil] at hn
  simp [Bytes.toNat, Digits.toNat] at hn
  omega

theorem head?_ofNat (n : Nat) : (Bytes.ofNat n).head? ≠ some 0 := by
  intro hzero
  have hfirst := Bytes.takeWhile_ofNat n
  cases hoctets : Bytes.ofNat n with
  | nil => simp [hoctets] at hzero
  | cons b octets => simp_all

theorem readLength?_lengthOctets (h : limit.Admits n) (rest : Bytes) :
    readLength? limit (lengthOctets n ++ rest) = some (n, rest) := by
  unfold lengthOctets
  split_ifs with hshort
  · have hn : (UInt8.ofNat n).toNat = n := UInt8.toNat_ofNat_of_lt' (Nat.lt_trans hshort (by decide))
    have hlt : UInt8.ofNat n < 0x80 := UInt8.lt_iff_toNat_lt.2 (by rw [hn]; exact hshort)
    simp [readLength?, hlt, hn]
  · obtain hshort' | ⟨hoctets, hcount, hlimit⟩ := h
    · exact absurd hshort' hshort
    have hpos := List.length_pos_of_ne_nil (ofNat_ne_nil (Nat.le_of_not_lt hshort))
    have hfirst : (UInt8.ofNat (128 + (Bytes.ofNat n).length)).toNat = 128 + (Bytes.ofNat n).length :=
      UInt8.toNat_ofNat_of_lt' (Nat.add_lt_add_left hcount 128)
    have hlong : ¬ UInt8.ofNat (128 + (Bytes.ofNat n).length) < 0x80 := fun h => by
      have := UInt8.lt_iff_toNat_lt.1 h
      rw [hfirst] at this
      have : 128 + (Bytes.ofNat n).length < 128 := this
      omega
    simp only [List.cons_append, readLength?, if_neg hlong, hfirst, Nat.add_sub_cancel_left,
      List.take_left, List.drop_left, Bytes.toNat_ofNat]
    rw [if_neg (by omega), if_neg]
    rintro (h | h | h)
    · exact hshort h
    · exact head?_ofNat n h
    · omega

/-! ## Elements -/

theorem expect?_element (h : limit.Admits content.length) (rest : Bytes) :
    expect? limit tag (element tag content ++ rest) = some (content, rest) := by
  simp [expect?, readElement?, element, readLength?_lengthOctets h]

theorem only?_element (h : limit.Admits content.length) :
    only? limit tag (element tag content) = some content := by
  have hread : expect? limit tag (element tag content ++ []) = some (content, []) :=
    expect?_element h []
  rw [List.append_nil] at hread
  rw [only?, hread]

/-! ## Integers -/

theorem toNat_dropWhile (b : Bytes) : Bytes.toNat (b.dropWhile (· == 0)) = b.toNat := by
  rw [← Bytes.ofNat_toNat, Bytes.toNat_ofNat]

/-- The content of an integer has no superfluous zero and no sign, whatever the leading zeros of the
bytes are. -/
theorem unsignedValue?_unsignedContent (b : Bytes) :
    unsignedValue? (unsignedContent b) = some b.toNat := by
  rw [← toNat_dropWhile, unsignedContent]
  split
  · next hzero =>
    rw [hzero]
    rfl
  · next first tail hfirst =>
    have hne : first ≠ 0 := fun h => by
      have hhead := List.head_dropWhile_not (· == 0) (hfirst ▸ List.cons_ne_nil first tail)
      simp [hfirst, h] at hhead
    rw [hfirst]
    split_ifs with hhigh
    · have hpadded : Bytes.toNat (0 :: first :: tail) = Bytes.toNat (first :: tail) :=
        Bytes.toNat_zeros 1 (first :: tail)
      rw [unsignedValue?, if_neg, hpadded]
      rintro (h | ⟨-, h⟩)
      · exact absurd h (by decide)
      · exact absurd h (UInt8.not_lt.2 hhigh)
    · cases tail with
      | nil =>
        rw [unsignedValue?, if_pos (UInt8.not_le.1 hhigh)]
        rw [Bytes.toNat_singleton]
      | cons second tail =>
        rw [unsignedValue?, if_neg]
        rintro (h | ⟨h, -⟩)
        · exact hhigh h
        · exact hne h

/-- An element has a tag and at least one octet of length. -/
theorem length_add_two_le_element (tag : UInt8) (content : Bytes) :
    content.length + 2 ≤ (element tag content).length := by
  unfold element lengthOctets
  split_ifs
  all_goals
    simp only [List.length_cons, List.length_append]
    omega

theorem length_le_element (tag : UInt8) (content : Bytes) :
    content.length ≤ (element tag content).length :=
  Nat.le_of_add_right_le (length_add_two_le_element tag content)

theorem readUnsigned?_unsignedInteger {b : Bytes} (h : limit.Admits (unsignedInteger b).length)
    (rest : Bytes) :
    readUnsigned? limit (unsignedInteger b ++ rest) = some (b.toNat, rest) := by
  have hcontent := h.of_le (length_le_element integerTag (unsignedContent b))
  rw [readUnsigned?, unsignedInteger, expect?_element hcontent]
  simp [unsignedValue?_unsignedContent]

/-- A strict reader finds the two integers that were written and nothing else. -/
theorem readIntegerPair?_integerPair {a b : Bytes}
    (h : limit.Admits (unsignedInteger a ++ unsignedInteger b).length) :
    readIntegerPair? limit (integerPair a b) = some (a.toNat, b.toNat) := by
  have hsecond : readUnsigned? limit (unsignedInteger b) = some (b.toNat, []) := by
    have hread : readUnsigned? limit (unsignedInteger b ++ []) = some (b.toNat, []) :=
      readUnsigned?_unsignedInteger (h.of_le (by simp)) []
    rwa [List.append_nil] at hread
  have hfirst : readUnsigned? limit (unsignedInteger a ++ unsignedInteger b) =
      some (a.toNat, unsignedInteger b) :=
    readUnsigned?_unsignedInteger (h.of_le (by simp)) _
  have hcontent : only? limit sequenceTag (integerPair a b) =
      some (unsignedInteger a ++ unsignedInteger b) := by
    rw [integerPair, sequence, List.flatten_cons, List.flatten_singleton]
    exact only?_element h
  simp [readIntegerPair?, hcontent, hfirst, hsecond]

end Der

end DidAdmission
