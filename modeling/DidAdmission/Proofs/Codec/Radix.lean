-- SUMMARY: A byte string written as one big number is read back with its leading zeros, from one text only.
import DidAdmission.Codec.Base58
import DidAdmission.Codec.Multibase
import DidAdmission.Proofs.Codec.Symbols
import Mathlib.Data.List.TakeWhile
import Mathlib.Data.Nat.Digits.Lemmas

/-!
# Byte strings as numbers

A number is determined by its digits and the digits by the number, but for leading zeros. These are what
the text of a byte string writes beside the number, so that nothing of the byte string is lost and no other
text is read as it.
-/

namespace DidAdmission

/-! ## Digits -/

/-- The leading zeros of a list. -/
theorem takeWhile_zero {α : Type} [BEq α] [LawfulBEq α] [Zero α] (xs : List α) :
    xs.takeWhile (· == 0) = List.replicate (xs.takeWhile (· == 0)).length 0 :=
  List.eq_replicate_of_mem fun _ hx => eq_of_beq (List.mem_takeWhile_imp (p := (· == 0)) hx)

/-- Zeros before a list that does not start with one are all its leading zeros. -/
theorem length_takeWhile_zeros {α : Type} [BEq α] [LawfulBEq α] [Zero α] (count : Nat) {xs : List α}
    (h : xs.takeWhile (· == 0) = []) :
    ((List.replicate count 0 ++ xs).takeWhile (· == 0)).length = count := by
  rw [List.takeWhile_append_of_pos, h, List.append_nil, List.length_replicate]
  intro x hx
  exact beq_iff_eq.2 (List.eq_of_mem_replicate hx)

namespace Digits

variable {base : Nat}

theorem toNat_eq_ofDigits (digits : List Nat) : toNat base digits = Nat.ofDigits base digits.reverse := by
  rw [toNat, Nat.ofDigits_eq_foldr, List.foldr_reverse]
  congr 1
  funext n d
  rw [Nat.add_comm, Nat.mul_comm]
  rfl

/-- Enough fuel finds all digits. -/
theorem lowFirst_eq_digits (hbase : 2 ≤ base) {fuel n : Nat} (h : n < 2 ^ fuel) :
    lowFirst base fuel n = Nat.digits base n := by
  induction fuel generalizing n with
  | zero =>
    obtain rfl : n = 0 := by omega
    rw [lowFirst, Nat.digits_zero]
  | succ fuel ih =>
    rw [lowFirst]
    split
    case isTrue hzero => rw [hzero, Nat.digits_zero]
    case isFalse hpos =>
      have hrest : n / base < 2 ^ fuel := by
        calc n / base ≤ n / 2 := Nat.div_le_div_left hbase (by omega)
          _ < 2 ^ fuel := by omega
      rw [ih hrest, Nat.digits_def' hbase (Nat.pos_of_ne_zero hpos)]

theorem ofNat_eq_digits (hbase : 2 ≤ base) (n : Nat) : ofNat base n = (Nat.digits base n).reverse := by
  rw [ofNat, lowFirst_eq_digits hbase Nat.lt_log2_self]

theorem toNat_ofNat (hbase : 2 ≤ base) (n : Nat) : toNat base (ofNat base n) = n := by
  rw [toNat_eq_ofDigits, ofNat_eq_digits hbase, List.reverse_reverse, Nat.ofDigits_digits]

theorem lt_of_mem_ofNat (hbase : 2 ≤ base) {n d : Nat} (h : d ∈ ofNat base n) : d < base := by
  rw [ofNat_eq_digits hbase, List.mem_reverse] at h
  exact Nat.digits_lt_base hbase h

/-- A number is written without a leading zero. -/
theorem takeWhile_ofNat (hbase : 2 ≤ base) (n : Nat) : (ofNat base n).takeWhile (· == 0) = [] := by
  rw [List.takeWhile_eq_nil_iff]
  intro hlength hzero
  have hdigits : ofNat base n ≠ [] := List.ne_nil_of_length_pos hlength
  have hlast : (ofNat base n).head hdigits = 0 := by
    simpa [List.head_eq_getElem] using hzero
  simp only [ofNat_eq_digits hbase, List.head_reverse] at hlast
  refine Nat.getLast_digit_ne_zero base ?_ hlast
  rintro rfl
  simp [ofNat_eq_digits hbase] at hdigits

theorem toNat_zeros (count : Nat) (digits : List Nat) :
    toNat base (List.replicate count 0 ++ digits) = toNat base digits := by
  rw [toNat_eq_ofDigits, toNat_eq_ofDigits, List.reverse_append, List.reverse_replicate,
    Nat.ofDigits_append_replicate_zero]

/-- The digits of a number are those it was read from, without leading zeros. -/
theorem ofNat_toNat (hbase : 2 ≤ base) {digits : List Nat} (h : ∀ d ∈ digits, d < base) :
    ofNat base (toNat base digits) = digits.dropWhile (· == 0) := by
  have hvalue : toNat base digits = toNat base (digits.dropWhile (· == 0)) := by
    conv_lhs => rw [← List.takeWhile_append_dropWhile (p := (· == 0)) (l := digits), takeWhile_zero]
    exact toNat_zeros _ _
  rw [hvalue, ofNat_eq_digits hbase, toNat_eq_ofDigits, Nat.digits_ofDigits base hbase,
    List.reverse_reverse]
  · intro d hd
    exact h d ((List.dropWhile_suffix _).subset (List.mem_reverse.1 hd))
  · intro hne
    rw [List.getLast_reverse]
    exact ne_of_beq_false (List.head_dropWhile_not (· == 0) _)

end Digits

/-! ## Byte strings -/

namespace Bytes

theorem digits_lt (b : Bytes) : ∀ d ∈ b.map UInt8.toNat, d < 256 := by
  intro d hd
  obtain ⟨x, -, rfl⟩ := List.mem_map.1 hd
  exact x.toNat_lt

theorem toNat_singleton (x : UInt8) : toNat [x] = x.toNat := by
  simp [toNat, Digits.toNat]

theorem ofNat_toNat (b : Bytes) : ofNat b.toNat = b.dropWhile (· == 0) := by
  have hzero : ((· == 0) ∘ UInt8.toNat : UInt8 → Bool) = (· == 0) := by
    funext x
    refine Bool.eq_iff_iff.2 ?_
    simp only [Function.comp_apply, beq_iff_eq, ← UInt8.toNat_inj, UInt8.toNat_zero]
  have hbyte : UInt8.ofNat ∘ UInt8.toNat = id := funext fun _ => UInt8.ofNat_toNat
  rw [ofNat, toNat, Digits.ofNat_toNat (by decide) b.digits_lt, List.dropWhile_map, List.map_map, hzero,
    hbyte, List.map_id]

theorem toNat_zeros (count : Nat) (b : Bytes) : toNat (List.replicate count 0 ++ b) = toNat b := by
  rw [toNat, List.map_append, List.map_replicate]
  exact Digits.toNat_zeros count _

theorem toNat_ofNat (n : Nat) : toNat (ofNat n) = n := by
  have hbytes : (ofNat n).map UInt8.toNat = Digits.ofNat 256 n := by
    rw [ofNat, List.map_map]
    refine (List.map_congr_left fun d hd => ?_).trans (List.map_id' _)
    exact UInt8.toNat_ofNat_of_lt' (Digits.lt_of_mem_ofNat (by decide) hd)
  rw [toNat, hbytes, Digits.toNat_ofNat (by decide)]

/-- A number is written without a leading zero byte. -/
theorem takeWhile_ofNat (n : Nat) : (ofNat n).takeWhile (· == 0) = [] := by
  have hdrop := ofNat_toNat (ofNat n)
  rw [toNat_ofNat] at hdrop
  have hsplit := List.takeWhile_append_dropWhile (p := (· == 0)) (l := ofNat n)
  rw [← hdrop] at hsplit
  exact List.append_left_eq_self.1 hsplit

end Bytes

namespace Radix

variable {base : Nat}

theorem lt_of_mem_encode (hbase : 2 ≤ base) {b : Bytes} {d : Nat} (h : d ∈ encode base b) :
    d < base := by
  rcases List.mem_append.1 h with hzero | hdigit
  · rw [List.eq_of_mem_replicate hzero]
    omega
  · exact Digits.lt_of_mem_ofNat hbase hdigit

/-- The zeros that are written before the number are those of the byte string. -/
theorem takeWhile_encode (hbase : 2 ≤ base) (b : Bytes) :
    ((encode base b).takeWhile (· == 0)).length = (b.takeWhile (· == 0)).length :=
  length_takeWhile_zeros _ (Digits.takeWhile_ofNat hbase _)

theorem decode_encode (hbase : 2 ≤ base) (b : Bytes) : decode base (encode base b) = b := by
  rw [decode, takeWhile_encode hbase, encode, Digits.toNat_zeros, Digits.toNat_ofNat hbase,
    Bytes.ofNat_toNat, ← takeWhile_zero, List.takeWhile_append_dropWhile]

/-- Digits are what is written for the byte string that they stand for. -/
theorem encode_decode {digits : List Nat} (hbase : 2 ≤ base)
    (h : ∀ d ∈ digits, d < base) : encode base (decode base digits) = digits := by
  have hzeros : ((decode base digits).takeWhile (· == 0)).length =
      (digits.takeWhile (· == 0)).length :=
    length_takeWhile_zeros _ (Bytes.takeWhile_ofNat _)
  rw [encode, hzeros, decode, Bytes.toNat_zeros, Bytes.toNat_ofNat, Digits.ofNat_toNat hbase h,
    ← takeWhile_zero, List.takeWhile_append_dropWhile]

end Radix

/-! ## Base58 -/

namespace Base58

theorem bitcoin_nodup : Alphabet.bitcoin.Nodup := by decide

theorem bitcoin_ascii : ∀ c ∈ Alphabet.bitcoin, c.toNat < 0x80 :=
  Alphabet.ascii_of_all (by decide)

/-- The digits are read back from their symbols. -/
theorem values_symbols {digits : List Nat} (h : ∀ d ∈ digits, d < 58) (offset : Nat) :
    values offset (digits.map Alphabet.bitcoin.symbol) = .ok digits := by
  induction digits generalizing offset with
  | nil => rfl
  | cons d digits ih =>
    obtain ⟨hd, hdigits⟩ := List.forall_mem_cons.1 h
    have hmem : Alphabet.bitcoin.symbol d ∈ Alphabet.bitcoin := Alphabet.symbol_mem hd
    have hascii := bitcoin_ascii _ hmem
    rw [List.map_cons, values, if_neg (by omega), Alphabet.value?_symbol bitcoin_nodup hd,
      ih hdigits]
    rfl

theorem decode_encode (b : Bytes) : decode (encode b) = .ok b := by
  have hdigits : ∀ d ∈ Radix.encode 58 b, d < 58 := fun d => Radix.lt_of_mem_encode (by decide)
  rw [decode, encode, values_symbols hdigits, Except.map, Radix.decode_encode (by decide)]

variable {s : List Char} {b : Bytes} {digits : List Nat}

theorem symbols_of_values {offset : Nat} (h : values offset s = .ok digits) :
    (∀ d ∈ digits, d < 58) ∧ digits.map Alphabet.bitcoin.symbol = s := by
  induction s generalizing offset digits with
  | nil =>
    obtain rfl := Except.ok.inj h
    exact ⟨List.forall_mem_nil _, rfl⟩
  | cons c s ih =>
    rw [values] at h
    split at h
    · cases h
    · split at h
      · cases h
      · next v hvalue =>
        obtain ⟨hv, hsymbol⟩ := Alphabet.symbol_of_value? hvalue
        obtain ⟨rest, hrest, rfl⟩ := map_eq_ok_iff.1 h
        obtain ⟨hlt, hsymbols⟩ := ih hrest
        exact ⟨List.forall_mem_cons.2 ⟨hv, hlt⟩, by rw [List.map_cons, hsymbol, hsymbols]⟩

theorem encode_of_decode (h : decode s = .ok b) : encode b = s := by
  obtain ⟨digits, hvalues, rfl⟩ := map_eq_ok_iff.1 h
  obtain ⟨hlt, hsymbols⟩ := symbols_of_values hvalues
  rw [encode, Radix.encode_decode (by decide) hlt, hsymbols]

end Base58

/-! ## Multibase -/

namespace Multibase

theorem values?_symbols {alphabet : Alphabet} (hdistinct : alphabet.Nodup) {digits : List Nat}
    (h : ∀ d ∈ digits, d < alphabet.length) :
    values? alphabet (digits.map alphabet.symbol) = some digits := by
  induction digits with
  | nil => rfl
  | cons d digits ih =>
    obtain ⟨hd, hdigits⟩ := List.forall_mem_cons.1 h
    rw [values?] at ih ⊢
    rw [List.map_cons, List.mapM_cons, Alphabet.value?_symbol hdistinct hd, ih hdigits]
    rfl

theorem decodeRadix?_encode {alphabet : Alphabet} (hdistinct : alphabet.Nodup)
    (hbase : 2 ≤ alphabet.length) (b : Bytes) :
    decodeRadix? alphabet ((Radix.encode alphabet.length b).map alphabet.symbol) = some b := by
  rw [decodeRadix?, values?_symbols hdistinct fun _ => Radix.lt_of_mem_encode hbase, Option.map_some,
    Radix.decode_encode hbase]

theorem decode_encode (b : Bytes) : decode (encode b) = .ok b := by
  have hcode : Base.ofCode? 'z' = some .base58Bitcoin := by decide
  have hread : Base.base58Bitcoin.decode? (Base58.encode b) = some b :=
    decodeRadix?_encode Base58.bitcoin_nodup (by decide) b
  simp only [decode, encode, hcode, hread]

variable {s : List Char} {b : Bytes}

theorem symbols_of_values? {alphabet : Alphabet} {digits : List Nat}
    (h : values? alphabet s = some digits) :
    (∀ d ∈ digits, d < alphabet.length) ∧ digits.map alphabet.symbol = s := by
  induction s generalizing digits with
  | nil =>
    obtain rfl := Option.some.inj h
    exact ⟨List.forall_mem_nil _, rfl⟩
  | cons c s ih =>
    rw [values?, List.mapM_cons] at h
    simp only [Option.bind_eq_bind, Option.bind_eq_some_iff, Option.pure_def,
      Option.some.injEq] at h
    obtain ⟨v, hvalue, rest, hrest, rfl⟩ := h
    obtain ⟨hv, hsymbol⟩ := Alphabet.symbol_of_value? hvalue
    obtain ⟨hlt, hsymbols⟩ := ih hrest
    exact ⟨List.forall_mem_cons.2 ⟨hv, hlt⟩, by rw [List.map_cons, hsymbol, hsymbols]⟩

/-- Under the code that bytes are written under, they have one text. -/
theorem encode_of_decode (hcode : s.head? = some 'z') (h : decode s = .ok b) : encode b = s := by
  obtain ⟨rest, rfl⟩ := List.head?_eq_some_iff.1 hcode
  have hbase : Base.ofCode? 'z' = some .base58Bitcoin := by decide
  simp only [decode, hbase, Base.decode?] at h
  split at h
  · next bytes hread =>
    obtain rfl := Except.ok.inj h
    obtain ⟨digits, hvalues, rfl⟩ := Option.map_eq_some_iff.1 hread
    obtain ⟨hlt, hsymbols⟩ := symbols_of_values? hvalues
    have hsize : Alphabet.bitcoin.length = 58 := by decide
    rw [hsize] at hlt ⊢
    rw [encode, Base58.encode, Radix.encode_decode (by decide) hlt, hsymbols]
  · cases h

end Multibase

end DidAdmission
