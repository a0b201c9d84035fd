-- SUMMARY: A symbol is read as the number it was written for; hexadecimal text as its bytes, and only that text.
import DidAdmission.Bytes
import DidAdmission.Codec.Alphabet
import DidAdmission.Codec.Hex
import DidAdmission.Fallible
import Mathlib.Data.List.GetD
import Mathlib.Data.List.Nodup

/-!
# Symbols

The symbol of a number is read back as that number, as long as no character stands twice in the alphabet.
Texts of such symbols are ASCII, so that reading them byte by byte is reading them symbol by symbol. A
hexadecimal text that is read as bytes is the text of the bytes, but for the case of its digits.
-/

namespace DidAdmission

/-! ## Alphabets -/

namespace Alphabet

variable {alphabet : Alphabet} {v : Nat}

theorem symbol_eq_getElem (h : v < alphabet.length) : alphabet.symbol v = alphabet[v] :=
  List.getD_eq_getElem alphabet _ h

theorem symbol_mem (h : v < alphabet.length) : alphabet.symbol v ∈ alphabet := by
  rw [symbol_eq_getElem h]
  exact List.getElem_mem h

theorem value?_symbol (hdistinct : alphabet.Nodup) (h : v < alphabet.length) :
    alphabet.value? (alphabet.symbol v) = some v := by
  rw [symbol_eq_getElem h, value?, List.idxOf?_eq_some_iff]
  refine ⟨h, rfl, fun j hj hsame => ?_⟩
  have := (hdistinct.getElem_inj_iff).1 hsame
  omega

theorem symbol_of_value? {c : Char} (h : alphabet.value? c = some v) :
    v < alphabet.length ∧ alphabet.symbol v = c := by
  obtain ⟨hv, hc, -⟩ := List.idxOf?_eq_some_iff.1 h
  exact ⟨hv, by rw [symbol_eq_getElem hv, hc]⟩

theorem ascii_of_all (h : alphabet.all (·.toNat < 0x80) = true) :
    ∀ c ∈ alphabet, c.toNat < 0x80 := by
  intro c hc
  exact of_decide_eq_true (List.all_eq_true.1 h c hc)

end Alphabet

/-! ## ASCII texts -/

namespace Bytes

variable {cs : List Char}

/-- The byte of an ASCII character. -/
def ofAscii (c : Char) : UInt8 :=
  UInt8.ofNat c.toNat

theorem ofChars_cons {c : Char} (h : c.toNat < 0x80) (cs : List Char) :
    ofChars (c :: cs) = ofAscii c :: ofChars cs := by
  have hbyte : String.utf8EncodeChar c = [ofAscii c] := by
    simp [String.utf8EncodeChar, ofAscii, Nat.le_of_lt_succ h]
  rw [ofChars, List.flatMap_cons, hbyte]
  rfl

theorem ofChars_ascii (h : ∀ c ∈ cs, c.toNat < 0x80) :
    ofChars cs = cs.map ofAscii := by
  induction cs with
  | nil => rfl
  | cons c cs ih =>
    obtain ⟨hc, hcs⟩ := List.forall_mem_cons.1 h
    rw [ofChars_cons hc, ih hcs, List.map_cons]

theorem toNat_ofAscii {c : Char} (h : c.toNat < 0x80) : (ofAscii c).toNat = c.toNat := by
  rw [ofAscii, UInt8.toNat_ofNat']
  omega

theorem ofNat_ofAscii {c : Char} (h : c.toNat < 0x80) : Char.ofNat (ofAscii c).toNat = c := by
  rw [toNat_ofAscii h, Char.ofNat_toNat]

/-- A character beyond ASCII has a byte beyond ASCII. -/
theorem exists_utf8EncodeChar_ge {c : Char} (h : 0x80 ≤ c.toNat) :
    ∃ x ∈ String.utf8EncodeChar c, 0x80 ≤ x.toNat := by
  refine ⟨UInt8.ofNat (c.toNat % 64 + 128), ?_, ?_⟩
  · simp only [String.utf8EncodeChar, Char.toNat_val, if_neg (show ¬ c.toNat ≤ 127 by omega)]
    split
    · simp
    · split <;> simp
  · rw [UInt8.toNat_ofNat']
    omega

theorem ascii_of_ofChars (h : ∀ x ∈ ofChars cs, x.toNat < 0x80) : ∀ c ∈ cs, c.toNat < 0x80 := by
  intro c hc
  by_contra hwide
  obtain ⟨x, hx, hlarge⟩ := exists_utf8EncodeChar_ge (Nat.not_lt.1 hwide)
  have hsmall := h x (List.mem_flatMap.2 ⟨c, hc, hx⟩)
  omega

theorem ofAscii_ofNat (x : UInt8) : ofAscii (Char.ofNat x.toNat) = x := by
  have hvalid : x.toNat.isValidChar := .inl (Nat.lt_trans x.toNat_lt (by decide))
  have hchar : (Char.ofNat x.toNat).toNat = x.toNat := by
    rw [Char.ofNat, dif_pos hvalid]
    rfl
  rw [ofAscii, hchar, UInt8.ofNat_toNat]

/-- An ASCII text is read off its bytes. -/
theorem map_ofNat_ofChars (h : ∀ c ∈ cs, c.toNat < 0x80) :
    (ofChars cs).map (fun x => Char.ofNat x.toNat) = cs := by
  rw [ofChars_ascii h, List.map_map]
  exact (List.map_congr_left fun c hc => ofNat_ofAscii (h c hc)).trans (List.map_id' cs)

/-- A text with the bytes of an ASCII text is that text. -/
theorem eq_of_ofChars {ascii : List Char} (h : ∀ c ∈ ascii, c.toNat < 0x80)
    (hbytes : ofChars cs = ofChars ascii) : cs = ascii := by
  have hcs : ∀ c ∈ cs, c.toNat < 0x80 := by
    refine ascii_of_ofChars fun x hx => ?_
    rw [hbytes, ofChars_ascii h] at hx
    obtain ⟨c, hc, rfl⟩ := List.mem_map.1 hx
    rw [toNat_ofAscii (h c hc)]
    exact h c hc
  rw [← map_ofNat_ofChars hcs, hbytes, map_ofNat_ofChars h]

end Bytes

/-! ## Hexadecimal -/

namespace Hex

variable {v : UInt8} {s : List Char} {b : Bytes}

theorem high_lt (x : UInt8) : x / 16 < 16 := by
  have := x.toNat_lt
  rw [UInt8.lt_iff_toNat_lt, UInt8.toNat_div]
  simp
  omega

theorem low_lt (x : UInt8) : x % 16 < 16 := by
  rw [UInt8.lt_iff_toNat_lt, UInt8.toNat_mod]
  simp
  omega

theorem high_low (x : UInt8) : x / 16 * 16 + x % 16 = x := by
  apply UInt8.toNat_inj.1
  have := x.toNat_lt
  simp
  omega

/-- The two digits of a byte that was read from two digits. -/
theorem digits_of_byte {high low : UInt8} (hhigh : high < 16) (hlow : low < 16) :
    (high * 16 + low) / 16 = high ∧ (high * 16 + low) % 16 = low := by
  rw [UInt8.lt_iff_toNat_lt] at hhigh hlow
  simp only [← UInt8.toNat_inj, UInt8.toNat_div, UInt8.toNat_mod, UInt8.toNat_add,
    UInt8.toNat_mul, UInt8.reduceToNat] at hhigh hlow ⊢
  omega

/-! ### Digits in either case -/

/-- Digits are written in ASCII and in lower case. -/
theorem symbol_plain (h : v < 16) : (symbol v).toNat < 0x80 ∧ (symbol v).toLower = symbol v := by
  have hall : ∀ n : Fin 16, (symbol (UInt8.ofNat n)).toNat < 0x80 ∧
      (symbol (UInt8.ofNat n)).toLower = symbol (UInt8.ofNat n) := by decide
  have := hall ⟨v.toNat, UInt8.lt_iff_toNat_lt.1 h⟩
  rwa [UInt8.ofNat_toNat] at this

/-- The byte of a digit, and the digit in lower case. -/
theorem symbol_of_digit? {x : UInt8} (h : digit? x = some v) :
    x.toNat < 0x80 ∧ v < 16 ∧ symbol v = (Char.ofNat x.toNat).toLower := by
  have hall : ∀ n : Fin 256, (digit? (UInt8.ofNat n)).all (fun v =>
      decide (n.val < 0x80 ∧ v < 16 ∧ symbol v = (Char.ofNat n).toLower)) = true := by
    decide +kernel
  have hx := hall ⟨x.toNat, x.toNat_lt⟩
  rw [UInt8.ofNat_toNat, h] at hx
  exact of_decide_eq_true hx

/-- A digit in either case has the value of the digit in lower case. -/
theorem digit?_of_toLower {c : Char} (hv : v < 16) (h : c.toLower = symbol v) :
    c.toNat < 0x80 ∧ digit? (Bytes.ofAscii c) = some v := by
  have hascii : c.toNat < 0x80 := by
    by_contra hlarge
    have hlower : c.toLower = c := dif_neg fun hupper => by
      have hlast : c.toNat ≤ 90 := UInt32.le_iff_toNat_le.1 hupper.2
      omega
    exact hlarge (hlower ▸ h ▸ (symbol_plain hv).1)
  have hall : ∀ n : Fin 128, ∀ v : Fin 16, (Char.ofNat n).toLower = symbol (UInt8.ofNat v) →
      digit? (UInt8.ofNat n) = some (UInt8.ofNat v) := by
    decide +kernel
  have hdigit := hall ⟨c.toNat, hascii⟩ ⟨v.toNat, UInt8.lt_iff_toNat_lt.1 hv⟩
  rw [Char.ofNat_toNat, UInt8.ofNat_toNat] at hdigit
  exact ⟨hascii, hdigit h⟩

/-! ### Texts -/

@[simp] theorem encode_cons (x : UInt8) (b : Bytes) :
    encode (x :: b) = symbol (x / 16) :: symbol (x % 16) :: encode b := rfl

@[simp] theorem length_encode (b : Bytes) : (encode b).length = 2 * b.length := by
  simp [encode, List.length_flatMap, Nat.mul_comm]

theorem symbols_of_decodePairs {position : Nat} {text : Bytes}
    (h : decodePairs position text = .ok b) :
    (∀ x ∈ text, x.toNat < 0x80) ∧ encode b = text.map fun x => (Char.ofNat x.toNat).toLower := by
  fun_induction decodePairs position text generalizing b with
  | case1 =>
    obtain rfl := Except.ok.inj h
    exact ⟨List.forall_mem_nil _, rfl⟩
  | case2 => cases h
  | case3 => cases h
  | case4 => cases h
  | case5 position x y rest high low hy hx ih =>
    obtain ⟨bytes, hrest, rfl⟩ := map_eq_ok_iff.1 h
    obtain ⟨hascii, hencode⟩ := ih hrest
    obtain ⟨hxAscii, hhigh, hxSymbol⟩ := symbol_of_digit? hx
    obtain ⟨hyAscii, hlow, hySymbol⟩ := symbol_of_digit? hy
    obtain ⟨hdiv, hmod⟩ := digits_of_byte hhigh hlow
    refine ⟨List.forall_mem_cons.2 ⟨hxAscii, List.forall_mem_cons.2 ⟨hyAscii, hascii⟩⟩, ?_⟩
    rw [encode_cons, hdiv, hmod, hxSymbol, hySymbol, hencode]
    rfl

theorem decodePairs_of_encode (h : encode b = s.map Char.toLower) (position : Nat) :
    (∀ c ∈ s, c.toNat < 0x80) ∧ decodePairs position (s.map Bytes.ofAscii) = .ok b := by
  induction b generalizing s position with
  | nil =>
    obtain rfl := List.map_eq_nil_iff.1 h.symm
    exact ⟨List.forall_mem_nil _, rfl⟩
  | cons x b ih =>
    obtain ⟨high, rest, rfl, hhigh, hrest⟩ := List.map_eq_cons_iff.1 h.symm
    obtain ⟨low, rest, rfl, hlow, hrest⟩ := List.map_eq_cons_iff.1 hrest
    obtain ⟨hhighAscii, hhighDigit⟩ := digit?_of_toLower (high_lt x) hhigh
    obtain ⟨hlowAscii, hlowDigit⟩ := digit?_of_toLower (low_lt x) hlow
    obtain ⟨hascii, hread⟩ := ih hrest.symm (position + 2)
    refine ⟨List.forall_mem_cons.2 ⟨hhighAscii, List.forall_mem_cons.2 ⟨hlowAscii, hascii⟩⟩, ?_⟩
    simp only [List.map_cons, decodePairs, hhighDigit, hlowDigit, high_low, hread]
    rfl

/-- A text is read as bytes just if it is, in lower case, the text that is written for them. -/
theorem decode_eq_ok_iff : decode s = .ok b ↔ encode b = s.map Char.toLower := by
  constructor
  · intro h
    rw [decode] at h
    split at h
    · cases h
    · obtain ⟨hascii, hencode⟩ := symbols_of_decodePairs h
      have hchars := Bytes.map_ofNat_ofChars (Bytes.ascii_of_ofChars hascii)
      conv_rhs => rw [← hchars, List.map_map]
      exact hencode
  · intro h
    obtain ⟨hascii, hread⟩ := decodePairs_of_encode h 0
    have hlength := congrArg List.length h
    rw [length_encode, List.length_map] at hlength
    have heven : ¬ s.length % 2 = 1 := by omega
    rw [decode, Bytes.ofChars_ascii hascii]
    simp only [List.length_map, if_neg heven, hread]

/-- The digits, in either case. -/
def digits : List Char := "0123456789abcdefABCDEF".toList

theorem exists_symbol {c : Char} (h : c ∈ digits) :
    ∃ n : Fin 16, c.toLower = symbol (UInt8.ofNat n) := by
  have hall : digits.all (fun c => decide (∃ n : Fin 16, c.toLower = symbol (UInt8.ofNat n))) = true := by
    decide
  exact of_decide_eq_true (List.all_eq_true.1 hall c h)

/-- Digits in pairs are the text of bytes. -/
theorem exists_encode_of_digits : ∀ {s : List Char}, (∀ c ∈ s, c ∈ digits) → s.length % 2 = 0 →
    ∃ b, encode b = s.map Char.toLower
  | [], _, _ => ⟨[], rfl⟩
  | [_], _, heven => absurd heven (by simp)
  | c :: d :: s, hdigits, heven => by
    obtain ⟨hc, hd, hs⟩ : c ∈ digits ∧ d ∈ digits ∧ ∀ c ∈ s, c ∈ digits := by simpa using hdigits
    obtain ⟨high, hhigh⟩ := exists_symbol hc
    obtain ⟨low, hlow⟩ := exists_symbol hd
    rw [List.length_cons, List.length_cons] at heven
    obtain ⟨b, hb⟩ := exists_encode_of_digits hs (by omega)
    have hlt : ∀ n : Fin 16, UInt8.ofNat n < 16 := by decide
    obtain ⟨hdiv, hmod⟩ := digits_of_byte (hlt high) (hlt low)
    refine ⟨(UInt8.ofNat high * 16 + UInt8.ofNat low) :: b, ?_⟩
    rw [encode_cons, hdiv, hmod, hb, ← hhigh, ← hlow]
    rfl

theorem map_toLower_encode (b : Bytes) : (encode b).map Char.toLower = encode b := by
  induction b with
  | nil => rfl
  | cons x b ih =>
    rw [encode_cons, List.map_cons, List.map_cons, (symbol_plain (high_lt x)).2,
      (symbol_plain (low_lt x)).2, ih]

theorem decode_encode (b : Bytes) : decode (encode b) = .ok b :=
  decode_eq_ok_iff.2 (map_toLower_encode b).symm

end Hex

end DidAdmission
