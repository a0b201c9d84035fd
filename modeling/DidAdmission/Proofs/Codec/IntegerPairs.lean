-- SUMMARY: A pair of integers is written by the rules of the distinguished encoding, and no other pair is read from it.
import DidAdmission.Proofs.Codec.StrictReading

/-!
# Pairs of integers

The rules of the distinguished encoding stand here on their own: lengths in the fewest octets
(`IsLength`), integers of either sign in the fewest octets of two's complement (`IsShortest`,
`signedValue`), nothing left over (`IsElement`). By these rules what is written for two byte strings is a
sequence of the two numbers that they write, and of no other two integers (`integer_pair_faithful`).
-/

namespace DidAdmission

theorem Bytes.toNat_lt (b : Bytes) : b.toNat < 256 ^ b.length := by
  have hdigits : ∀ d ∈ (b.map UInt8.toNat).reverse, d < 256 := fun d hd =>
    b.digits_lt d (List.mem_reverse.1 hd)
  have hlt := Nat.ofDigits_lt_base_pow_length (by decide : 1 < 256) hdigits
  rwa [← Digits.toNat_eq_ofDigits, List.length_reverse, List.length_map] at hlt

namespace Der

variable {limit : Limit} {n : Nat} {tag : UInt8} {b content octets : Bytes}

/-! ## The rules of the encoding -/

/-- The octets of a length: one below 128, else their count and the number, which does not start with a
zero. The greatest count is reserved. -/
inductive IsLength : Nat → Bytes → Prop
  | short {x : UInt8} (h : x < 0x80) : IsLength x.toNat [x]
  | long {mark : UInt8} {octets : Bytes} (hmark : mark.toNat = 128 + octets.length)
      (hreserved : mark ≠ 0xff) (hfirst : octets.head? ≠ some 0) (hlong : 128 ≤ octets.toNat) :
      IsLength octets.toNat (mark :: octets)

/-- The bytes are one element: its tag, its length and its content. -/
inductive IsElement (tag : UInt8) (content : Bytes) : Bytes → Prop
  | mk {octets : Bytes} (h : IsLength content.length octets) :
      IsElement tag content (tag :: (octets ++ content))

/-- The integer that bytes write in two's complement, most significant byte first. -/
def signedValue (content : Bytes) : Int :=
  if content.headD 0 < 0x80 then content.toNat else content.toNat - 256 ^ content.length

/-- No shorter bytes write the same integer: the first nine bits are not all alike. -/
inductive IsShortest : Bytes → Prop
  | one (x : UInt8) : IsShortest [x]
  | more {first second : UInt8} {tail : Bytes} (hzeros : first = 0 → 0x80 ≤ second)
      (hones : first = 0xff → second < 0x80) : IsShortest (first :: second :: tail)

/-- The bytes are one integer. -/
def IsInteger (z : Int) (b : Bytes) : Prop :=
  ∃ content, IsShortest content ∧ signedValue content = z ∧ IsElement integerTag content b

/-- The bytes are a sequence of two integers. -/
def IsIntegerPair (y z : Int) (b : Bytes) : Prop :=
  ∃ first second, IsInteger y first ∧ IsInteger z second ∧ IsElement sequenceTag (first ++ second) b

/-! ## Lengths and elements -/

theorem IsLength.eq_lengthOctets (h : IsLength n octets) : octets = lengthOctets n := by
  cases h with
  | short h => exact (lengthOctets_toNat h).symm
  | long hmark hreserved hfirst hlong =>
    rw [lengthOctets_of_le (Nat.not_lt.2 hlong), ofNat_toNat_of_head? hfirst, ← hmark,
      UInt8.ofNat_toNat]

theorem isLength_lengthOctets (hoctets : limit.octets < 127) (h : limit.Admits n) :
    IsLength n (lengthOctets n) := by
  by_cases hshort : n < 128
  · have hn : (UInt8.ofNat n).toNat = n := UInt8.toNat_ofNat_of_lt' (Nat.lt_trans hshort (by decide))
    have hlow : UInt8.ofNat n < 0x80 := lt_128_iff.2 (hn.symm ▸ hshort)
    have hlength := IsLength.short hlow
    rwa [hn, ← lengthOctets_toNat hlow, hn] at hlength
  · obtain hshort' | ⟨hcount, -, -⟩ := h
    · exact absurd hshort' hshort
    have hmark : (UInt8.ofNat (128 + (Bytes.ofNat n).length)).toNat = 128 + (Bytes.ofNat n).length :=
      UInt8.toNat_ofNat_of_lt' (by
        have : (Bytes.ofNat n).length < 128 := by omega
        exact Nat.add_lt_add_left this 128)
    have hlength : IsLength (Bytes.ofNat n).toNat
        (UInt8.ofNat (128 + (Bytes.ofNat n).length) :: Bytes.ofNat n) := by
      refine .long hmark ?_ (head?_ofNat n) (by rw [Bytes.toNat_ofNat]; omega)
      intro hreserved
      rw [hreserved] at hmark
      have : 255 = 128 + (Bytes.ofNat n).length := hmark
      omega
    rwa [Bytes.toNat_ofNat, ← lengthOctets_of_le hshort] at hlength

theorem IsElement.eq_element (h : IsElement tag content b) : b = element tag content := by
  cases h with
  | mk h => rw [h.eq_lengthOctets, element]

theorem isElement_element (hoctets : limit.octets < 127) (h : limit.Admits content.length) :
    IsElement tag content (element tag content) :=
  .mk (isLength_lengthOctets hoctets h)

/-! ## Integers -/

/-- An integer is not negative just if its first bit is not set. -/
theorem signedValue_eq_natCast_iff :
    signedValue content = n ↔ content.headD 0 < 0x80 ∧ content.toNat = n := by
  unfold signedValue
  split_ifs with hlow
  · simp only [hlow, true_and, Nat.cast_inj]
  · have hlt : (content.toNat : Int) < 256 ^ content.length := by exact_mod_cast content.toNat_lt
    refine iff_of_false (by omega) fun h => hlow h.1

/-- The reader of a non-negative integer takes just the shortest bytes that write it. -/
theorem unsignedValue?_eq_some_iff_shortest :
    unsignedValue? content = some n ↔ IsShortest content ∧ signedValue content = n := by
  rw [signedValue_eq_natCast_iff]
  unfold unsignedValue?
  split
  · refine iff_of_false (by simp) ?_
    rintro ⟨hshortest, -⟩
    cases hshortest
  · next x =>
    rw [Bytes.toNat_singleton, List.headD_cons]
    split_ifs with hlow
    · simp [hlow, IsShortest.one x]
    · simp [hlow]
  · next first second tail =>
    rw [List.headD_cons]
    split_ifs with hbad
    · refine iff_of_false (by simp) ?_
      rintro ⟨hshortest, hlow, -⟩
      cases hshortest with
      | more hzeros hones =>
        rcases hbad with hhigh | ⟨hzero, hsecond⟩
        · exact UInt8.not_le.2 hlow hhigh
        · exact UInt8.not_le.2 hsecond (hzeros hzero)
    · simp only [not_or, not_and, UInt8.not_le, UInt8.not_lt] at hbad
      obtain ⟨hlow, hzeros⟩ := hbad
      have hones : first = 0xff → second < 0x80 := by
        rintro rfl
        exact absurd hlow (by decide)
      simp [hlow, IsShortest.more hzeros hones]

theorem unsignedContent_shortest (b : Bytes) :
    IsShortest (unsignedContent b) ∧ signedValue (unsignedContent b) = b.toNat :=
  unsignedValue?_eq_some_iff_shortest.1 (unsignedValue?_unsignedContent b)

theorem isInteger_unsignedInteger (hoctets : limit.octets < 127)
    (h : limit.Admits (unsignedInteger b).length) : IsInteger b.toNat (unsignedInteger b) :=
  ⟨unsignedContent b, (unsignedContent_shortest b).1, (unsignedContent_shortest b).2,
    isElement_element hoctets (h.of_le (length_le_element _ _))⟩

/-- A non-negative integer is written in one way. -/
theorem IsInteger.eq_unsignedInteger (h : IsInteger n b) : b = unsignedInteger (Bytes.ofNat n) := by
  obtain ⟨content, hshortest, hvalue, hinteger⟩ := h
  have hread := unsignedValue?_eq_some_iff_shortest.2 ⟨hshortest, hvalue⟩
  rw [hinteger.eq_element, unsignedValue?_eq_some_iff.1 hread, unsignedInteger]

/-! ## Pairs -/

theorem integerPair_eq_element (a b : Bytes) :
    integerPair a b = element sequenceTag (unsignedInteger a ++ unsignedInteger b) := by
  rw [integerPair, sequence, List.flatten_cons, List.flatten_singleton]

theorem IsIntegerPair.eq_integerPair {m : Nat} (h : IsIntegerPair n m b) :
    b = integerPair (Bytes.ofNat n) (Bytes.ofNat m) := by
  obtain ⟨first, second, hfirst, hsecond, hpair⟩ := h
  rw [hpair.eq_element, hfirst.eq_unsignedInteger, hsecond.eq_unsignedInteger, integerPair_eq_element]

section

variable {a : Bytes} (hlimit : limit.Admits (unsignedInteger a ++ unsignedInteger b).length)
include hlimit

theorem isIntegerPair_integerPair (hoctets : limit.octets < 127) :
    IsIntegerPair a.toNat b.toNat (integerPair a b) := by
  refine ⟨unsignedInteger a, unsignedInteger b, ?_, ?_, ?_⟩
  · exact isInteger_unsignedInteger hoctets (hlimit.of_le (by simp))
  · exact isInteger_unsignedInteger hoctets (hlimit.of_le (by simp))
  · rw [integerPair_eq_element]
    exact isElement_element hoctets hlimit

/-- The bytes of a pair are those of no other pair, of either sign. -/
theorem IsIntegerPair.unique {y z : Int} (h : IsIntegerPair y z (integerPair a b)) :
    y = a.toNat ∧ z = b.toNat := by
  obtain ⟨first, second, ⟨cy, -, rfl, hfirst⟩, ⟨cz, -, rfl, hsecond⟩, hpair⟩ := h
  obtain rfl := hfirst.eq_element
  obtain rfl := hsecond.eq_element
  have hwhole := hpair.eq_element
  rw [integerPair_eq_element] at hwhole
  have hcontent := (element_inj.1 hwhole).2
  have hy : limit.Admits cy.length := by
    rw [hcontent] at hlimit
    refine hlimit.of_le ?_
    rw [List.length_append]
    exact (length_le_element _ _).trans (Nat.le_add_right _ _)
  have ha : limit.Admits (unsignedContent a).length := by
    refine hlimit.of_le ?_
    rw [List.length_append]
    exact (length_le_element _ _).trans (Nat.le_add_right _ _)
  obtain ⟨-, rfl, hrest⟩ := (element_append_inj ha hy).1 hcontent
  obtain ⟨-, rfl⟩ := element_inj.1 hrest
  exact ⟨(unsignedContent_shortest a).2, (unsignedContent_shortest b).2⟩

/-- Two pairs are written alike just if they have the same values, whatever zeros lead them. -/
theorem integerPair_inj {a' b' : Bytes} :
    integerPair a' b' = integerPair a b ↔ a'.toNat = a.toNat ∧ b'.toNat = b.toNat := by
  constructor
  · intro h
    have hcontent := h
    rw [integerPair_eq_element, integerPair_eq_element, element_inj] at hcontent
    have hlimit' : limit.Admits (unsignedInteger a' ++ unsignedInteger b').length :=
      hcontent.2.symm ▸ hlimit
    have hread := readIntegerPair?_integerPair hlimit'
    rw [h, readIntegerPair?_integerPair hlimit] at hread
    simpa [eq_comm] using hread
  · rintro ⟨ha, hb⟩
    rw [integerPair, integerPair, unsignedInteger, unsignedInteger, unsignedContent_inj.2 ha,
      unsignedContent_inj.2 hb, ← unsignedInteger, ← unsignedInteger]

end

theorem isIntegerPair_of_readIntegerPair? (hoctets : limit.octets < 127) {x y : Nat}
    (h : readIntegerPair? limit b = some (x, y)) : IsIntegerPair x y b := by
  obtain ⟨rfl, hlimit⟩ := readIntegerPair?_eq_some_iff.1 h
  simpa only [Bytes.toNat_ofNat] using isIntegerPair_integerPair hlimit hoctets

/-- What is written for two byte strings is a pair of just the integers that they write, and the strict
reader, which takes nothing but such pairs, finds them. So their bytes tell the two values, and nothing
but these. -/
theorem integer_pair_faithful (n e : Bytes) (limit : Limit) (hoctets : limit.octets < 127)
    (hlimit : limit.Admits (unsignedInteger n ++ unsignedInteger e).length) :
    (∀ y z : Int, IsIntegerPair y z (integerPair n e) ↔ y = n.toNat ∧ z = e.toNat) ∧
    readIntegerPair? limit (integerPair n e) = some (n.toNat, e.toNat) ∧
    (∀ b x y, readIntegerPair? limit b = some (x, y) → IsIntegerPair x y b) ∧
    ∀ n' e', integerPair n' e' = integerPair n e ↔ n'.toNat = n.toNat ∧ e'.toNat = e.toNat := by
  refine ⟨fun y z => ⟨IsIntegerPair.unique hlimit, ?_⟩, readIntegerPair?_integerPair hlimit,
    fun b x y => isIntegerPair_of_readIntegerPair? hoctets, fun n' e' => integerPair_inj hlimit⟩
  rintro ⟨rfl, rfl⟩
  exact isIntegerPair_integerPair hlimit hoctets

/-! ## A long pair -/

/-- A number of 127 bytes whose first bit is set, behind a zero. -/
def longModulus : Bytes :=
  0x00 :: 0x80 :: List.replicate 126 0x00

/-- The content of the modulus gets a zero in front and thus 128 bytes, and the missing exponent is zero. -/
theorem longModulus_faithful :
    (Limit.octets ⟨2, 65535⟩ < 127 ∧
      Limit.Admits ⟨2, 65535⟩ (unsignedInteger longModulus ++ unsignedInteger []).length) ∧
    (integerPair longModulus []).take 10 = [0x30, 0x81, 0x86, 0x02, 0x81, 0x80, 0x00, 0x80, 0x00, 0x00] ∧
    readIntegerPair? ⟨2, 65535⟩ (integerPair longModulus []) = some (2 ^ 1015, 0) ∧
    integerPair (longModulus.drop 1) [0x00] = integerPair longModulus [] := by
  have hoctets : Limit.octets ⟨2, 65535⟩ < 127 := by decide
  have hlimit : Limit.Admits ⟨2, 65535⟩ (unsignedInteger longModulus ++ unsignedInteger []).length :=
    .inr (by decide +kernel)
  obtain ⟨-, hread, -, hsame⟩ := integer_pair_faithful longModulus [] ⟨2, 65535⟩ hoctets hlimit
  have hvalue : longModulus.toNat = 2 ^ 1015 := by decide +kernel
  rw [hvalue] at hread
  exact ⟨⟨hoctets, hlimit⟩, by decide +kernel, hread, (hsame _ _).2 (by decide +kernel)⟩

end Der

end DidAdmission
