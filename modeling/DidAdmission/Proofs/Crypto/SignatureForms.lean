-- SUMMARY: A pair of scalars is read from its two encodings and from nothing else, and bytes that are both have one reading.
import DidAdmission.Crypto.Secp256k1
import DidAdmission.Proofs.Codec.IntegerPairs

/-!
# Forms of a signature

A signature is a pair of scalars in range, written as a distinguished encoding or as 64 bytes. Each reader
takes just what is written for the pair that it answers, so the order in which they are tried decides only
about bytes that are both encodings: there the distinguished one is read (`signature_read_by_form`).
-/

namespace DidAdmission

/-! ## Numbers in a fixed width -/

namespace Bytes

variable {width n : Nat} {b : Bytes}

theorem toNat_append (a b : Bytes) : toNat (a ++ b) = a.toNat * 256 ^ b.length + b.toNat := by
  simp only [toNat, Digits.toNat_eq_ofDigits, List.map_append, List.reverse_append,
    Nat.ofDigits_append, List.length_reverse, List.length_map]
  rw [Nat.add_comm, Nat.mul_comm]

/-- The lowest bytes of a number write what is left of it modulo their weight. -/
theorem toNat_ofNatPadded (width n : Nat) : (ofNatPadded width n).toNat = n % 256 ^ width := by
  induction width with
  | zero => simp [ofNatPadded, toNat, Digits.toNat, Nat.mod_one]
  | succ width ih =>
    have hfirst : toNat [UInt8.ofNat (n / 256 ^ width)] = n / 256 ^ width % 256 := by
      rw [toNat_singleton, UInt8.toNat_ofNat']
    calc (ofNatPadded (width + 1) n).toNat
        = toNat ([UInt8.ofNat (n / 256 ^ width)] ++ ofNatPadded width n) := rfl
      _ = n / 256 ^ width % 256 * 256 ^ width + n % 256 ^ width := by
          rw [toNat_append, hfirst, ih, length_ofNatPadded]
      _ = n % 256 ^ (width + 1) := by
          rw [Nat.mod_pow_succ, Nat.add_comm, Nat.mul_comm]

theorem toNat_ofNatPadded_of_lt (h : n < 256 ^ width) : (ofNatPadded width n).toNat = n := by
  rw [toNat_ofNatPadded, Nat.mod_eq_of_lt h]

/-- Byte strings of one length are told by their numbers. -/
theorem eq_of_toNat_eq {a b : Bytes} (hlength : a.length = b.length) (h : a.toNat = b.toNat) :
    a = b := by
  have hdigit (c : Bytes) : ∀ d ∈ (c.map UInt8.toNat).reverse, d < 256 := fun d hd =>
    c.digits_lt d (List.mem_reverse.1 hd)
  rw [toNat, toNat, Digits.toNat_eq_ofDigits, Digits.toNat_eq_ofDigits] at h
  have hdigits := Nat.ofDigits_inj_of_len_eq (by decide) (by simpa using hlength) (hdigit a) (hdigit b) h
  exact List.map_injective_iff.2 (fun _ _ => UInt8.toNat_inj.1) (List.reverse_injective hdigits)

theorem ofNatPadded_toNat (h : b.length = width) : ofNatPadded width b.toNat = b := by
  refine eq_of_toNat_eq ((length_ofNatPadded _ _).trans h.symm) ?_
  exact toNat_ofNatPadded_of_lt (h ▸ b.toNat_lt)

theorem length_ofNat_le (h : n < 256 ^ width) : (ofNat n).length ≤ width := by
  rw [ofNat, List.length_map, Digits.ofNat_eq_digits (by decide), List.length_reverse]
  exact (Nat.digits_length_le_iff (by decide) n).2 h

end Bytes

namespace Der

theorem length_unsignedContent_le (b : Bytes) : (unsignedContent b).length ≤ b.length + 1 := by
  have hdrop := (List.dropWhile_sublist (· == (0 : UInt8)) (l := b)).length_le
  unfold unsignedContent
  split
  · simp
  · next first tail hfirst =>
    rw [hfirst] at hdrop
    split_ifs
    all_goals
      simp only [List.length_cons] at hdrop ⊢
      omega

/-- A short integer has a tag, one octet of length, and at most one byte more than the number. -/
theorem length_unsignedInteger_le {b : Bytes} (h : b.length < 127) :
    (unsignedInteger b).length ≤ b.length + 3 := by
  have hcontent := length_unsignedContent_le b
  have hshort : (unsignedContent b).length < 128 := by omega
  simp only [unsignedInteger, element, lengthOctets, if_pos hshort, List.length_cons,
    List.length_append, List.length_nil]
  omega

end Der

namespace Secp256k1.Scalars

variable {b : Bytes} {g : Scalars}

theorem isInRange_iff :
    g.isInRange = true ↔ (0 < g.r ∧ g.r < order) ∧ 0 < g.s ∧ g.s < order := by
  simp [isInRange, and_assoc]

theorem lt_of_isInRange (h : g.isInRange = true) : g.r < 256 ^ 32 ∧ g.s < 256 ^ 32 := by
  obtain ⟨⟨-, hr⟩, -, hs⟩ := isInRange_iff.1 h
  have horder : order < 256 ^ 32 := by decide
  exact ⟨hr.trans horder, hs.trans horder⟩

/-! ## The encodings by their rules -/

/-- The bytes are the distinguished encoding of the pair. -/
def IsDer (g : Scalars) (b : Bytes) : Prop :=
  Der.IsIntegerPair g.r g.s b

/-- The bytes are the two scalars, in 32 bytes each. -/
def IsCompact (g : Scalars) (b : Bytes) : Prop :=
  ∃ first second : Bytes, b = first ++ second ∧
    (first.length = 32 ∧ first.toNat = g.r) ∧ second.length = 32 ∧ second.toNat = g.s

/-- The bytes are the distinguished encoding of some pair in range. -/
def IsDerSignature (b : Bytes) : Prop :=
  ∃ g : Scalars, g.isInRange = true ∧ g.IsDer b

/-- The encoding of a pair in range is so short that every length in it takes one octet. -/
theorem admits_der (h : g.isInRange = true) : limit.Admits
    (Der.unsignedInteger (Bytes.ofNat g.r) ++ Der.unsignedInteger (Bytes.ofNat g.s)).length := by
  obtain ⟨hr, hs⟩ := lt_of_isInRange h
  have hr := Bytes.length_ofNat_le hr
  have hs := Bytes.length_ofNat_le hs
  have hfirst := Der.length_unsignedInteger_le (b := Bytes.ofNat g.r) (by omega)
  have hsecond := Der.length_unsignedInteger_le (b := Bytes.ofNat g.s) (by omega)
  refine .inl ?_
  rw [List.length_append]
  omega

theorem isDer_iff (h : g.isInRange = true) : g.IsDer b ↔ b = g.der := by
  constructor
  · exact Der.IsIntegerPair.eq_integerPair
  · rintro rfl
    have hpair := Der.isIntegerPair_integerPair (admits_der h) (by decide)
    simp only [Bytes.toNat_ofNat] at hpair
    exact hpair

theorem isCompact_iff (h : g.isInRange = true) : g.IsCompact b ↔ b = g.compact := by
  constructor
  · rintro ⟨first, second, rfl, ⟨hfirst, hr⟩, hsecond, hs⟩
    rw [compact, ← hr, ← hs, Bytes.ofNatPadded_toNat hfirst, Bytes.ofNatPadded_toNat hsecond]
  · rintro rfl
    obtain ⟨hr, hs⟩ := lt_of_isInRange h
    exact ⟨_, _, rfl, ⟨Bytes.length_ofNatPadded _ _, Bytes.toNat_ofNatPadded_of_lt hr⟩,
      Bytes.length_ofNatPadded _ _, Bytes.toNat_ofNatPadded_of_lt hs⟩

/-! ## Each reader -/

theorem checked?_eq_some_iff {found : Scalars} :
    checked? found = some g ↔ found = g ∧ g.isInRange = true := by
  rw [checked?]
  split_ifs with h
  · simp only [Option.some.injEq]
    refine ⟨?_, And.left⟩
    rintro rfl
    exact ⟨rfl, h⟩
  · refine iff_of_false (by simp) ?_
    rintro ⟨rfl, hrange⟩
    exact h hrange

theorem readDer?_eq_some_iff : readDer? b = some g ↔ g.isInRange = true ∧ g.IsDer b := by
  simp only [readDer?, Option.bind_eq_some_iff, Prod.exists, checked?_eq_some_iff]
  constructor
  · rintro ⟨r, s, hread, rfl, hrange⟩
    exact ⟨hrange, Der.isIntegerPair_of_readIntegerPair? (by decide) hread⟩
  · rintro ⟨hrange, hder⟩
    obtain rfl := (isDer_iff hrange).1 hder
    exact ⟨g.r, g.s, Der.readIntegerPair?_eq_some_iff.2 ⟨rfl, admits_der hrange⟩, rfl, hrange⟩

theorem readDer?_eq_none_iff : readDer? b = none ↔ ¬ IsDerSignature b := by
  simp only [Option.eq_none_iff_forall_ne_some, ne_eq, readDer?_eq_some_iff, IsDerSignature, not_exists]

theorem readCompact?_eq_some_iff : readCompact? b = some g ↔ g.isInRange = true ∧ g.IsCompact b := by
  rw [readCompact?]
  split_ifs with hlength
  · rw [checked?_eq_some_iff]
    constructor
    · rintro ⟨rfl, hrange⟩
      refine ⟨hrange, b.take 32, b.drop 32, (List.take_append_drop 32 b).symm, ⟨?_, rfl⟩, ?_, rfl⟩
      · rw [List.length_take, hlength]
        rfl
      · rw [List.length_drop, hlength]
    · rintro ⟨hrange, first, second, rfl, ⟨hfirst, hr⟩, -, hs⟩
      rw [List.take_left' hfirst, List.drop_left' hfirst, hr, hs]
      exact ⟨rfl, hrange⟩
  · refine iff_of_false (by simp) ?_
    rintro ⟨-, first, second, rfl, ⟨hfirst, -⟩, hsecond, -⟩
    exact hlength (by rw [List.length_append, hfirst, hsecond])

/-! ## Both readers -/

/-- What does not start with the tag of a sequence is no distinguished encoding. -/
theorem not_isDerSignature_of_head? (h : b.head? ≠ some Der.sequenceTag) : ¬ IsDerSignature b := by
  rintro ⟨g, hrange, hder⟩
  obtain rfl := (isDer_iff hrange).1 hder
  exact h rfl

/-- The readers are always tried in one order: where the other order is taken, the first reader of this
one fails. -/
theorem read?_eq_orElse (b : Bytes) : read? b = (readDer? b <|> readCompact? b) := by
  rw [read?]
  split_ifs with htag
  · rfl
  · rw [readDer?_eq_none_iff.2 (not_isDerSignature_of_head? htag)]
    cases readCompact? b with
    | none => rfl
    | some found => rfl

theorem read?_eq_some_iff : read? b = some g ↔
    g.isInRange = true ∧ (g.IsDer b ∨ g.IsCompact b ∧ ¬ IsDerSignature b) := by
  rw [read?_eq_orElse]
  by_cases hder : IsDerSignature b
  · obtain ⟨found, hfound⟩ := Option.ne_none_iff_exists'.1 (mt readDer?_eq_none_iff.1 (not_not_intro hder))
    have hread : (readDer? b <|> readCompact? b) = readDer? b := by rw [hfound]; rfl
    rw [hread, readDer?_eq_some_iff]
    simp only [hder, not_true_eq_false, and_false, or_false]
  · have hnone := readDer?_eq_none_iff.2 hder
    have hread : (readDer? b <|> readCompact? b) = readCompact? b := by rw [hnone]; rfl
    have hnot : ¬ (g.isInRange = true ∧ g.IsDer b) := fun h => hder ⟨g, h⟩
    rw [hread, readCompact?_eq_some_iff]
    tauto

theorem read?_der (h : g.isInRange = true) : read? g.der = some g :=
  read?_eq_some_iff.2 ⟨h, .inl ((isDer_iff h).2 rfl)⟩

theorem read?_compact (h : g.isInRange = true) (hplain : ¬ IsDerSignature g.compact) :
    read? g.compact = some g :=
  read?_eq_some_iff.2 ⟨h, .inr ⟨(isCompact_iff h).2 rfl, hplain⟩⟩

/-- A pair is read just from its distinguished encoding, and from its 64 bytes where these are not the
distinguished encoding of a pair; either encoding is the one that is written. So a distinguished encoding
is read whatever its length is, and 64 bytes fail only where they are one themselves. -/
theorem signature_read_by_form (b : Bytes) (g : Scalars) :
    (read? b = some g ↔ g.isInRange = true ∧ (g.IsDer b ∨ g.IsCompact b ∧ ¬ IsDerSignature b)) ∧
    (g.isInRange = true →
      (g.IsDer b ↔ b = g.der) ∧ (g.IsCompact b ↔ b = g.compact) ∧
        read? g.der = some g ∧ (IsDerSignature g.compact ∨ read? g.compact = some g)) := by
  refine ⟨read?_eq_some_iff, fun hrange => ⟨isDer_iff hrange, isCompact_iff hrange, ?_, ?_⟩⟩
  · exact read?_der hrange
  · exact or_iff_not_imp_left.2 (read?_compact hrange)

/-! ## Bytes that are both encodings -/

/-- A pair of scalars of 29 bytes, whose distinguished encoding has 64 bytes. -/
def mediumPair : Scalars :=
  ⟨Bytes.toNat (List.replicate 29 0x11), Bytes.toNat (List.replicate 29 0x22)⟩

/-- The pair whose 64 bytes are that encoding. -/
def shadowedPair : Scalars :=
  ⟨Bytes.toNat (mediumPair.der.take 32), Bytes.toNat (mediumPair.der.drop 32)⟩

/-- Both pairs are in range, and the bytes that are encodings of both are read as the first one, which is
read from its own 64 bytes as well. -/
theorem mediumPair_shadows :
    (mediumPair.isInRange = true ∧ shadowedPair.isInRange = true) ∧
    mediumPair.der.length = 64 ∧ shadowedPair.compact = mediumPair.der ∧ shadowedPair ≠ mediumPair ∧
    read? mediumPair.der = some mediumPair ∧ read? shadowedPair.compact = some mediumPair ∧
    read? mediumPair.compact = some mediumPair := by
  have hrange : mediumPair.isInRange = true := by decide +kernel
  have hboth : shadowedPair.compact = mediumPair.der := by decide +kernel
  obtain ⟨-, hpair⟩ := signature_read_by_form mediumPair.compact mediumPair
  obtain ⟨-, -, hder, hcompact⟩ := hpair hrange
  have hplain : ¬ IsDerSignature mediumPair.compact :=
    not_isDerSignature_of_head? (by decide +kernel)
  exact ⟨⟨hrange, by decide +kernel⟩, by decide +kernel, hboth, by decide +kernel, hder,
    hboth ▸ hder, hcompact.resolve_left hplain⟩

end Secp256k1.Scalars

end DidAdmission
