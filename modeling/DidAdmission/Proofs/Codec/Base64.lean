-- SUMMARY: Padded Base64 text is read as the bytes it was written for, and no other symbols are.
import DidAdmission.Codec.Base64
import DidAdmission.Proofs.Codec.Symbols
import Mathlib.Data.List.DropRight

/-!
# Padded texts

Padding fills the last quad of symbols, so it stands in the last chunk of a text and there from the third
place of a quad on, where it is read. The symbols before it are read as the groups of six bits they were
written for, and these are the bytes again. Conversely a text that is read as bytes has their symbols and
then nothing but padding, of which some may be left out.
-/

namespace DidAdmission.Base64

/-! ## Groups of six bits -/

theorem joinSextets_splitSextets (b : Bytes) : joinSextets (splitSextets b) = some b := by
  have hbyte {n : Nat} {x : UInt8} (h : n = x.toNat) : UInt8.ofNat n = x := by
    rw [h, UInt8.ofNat_toNat]
  induction b using splitSextets.induct with
  | case1 x y z rest ih =>
    have hy := y.toNat_lt
    have hz := z.toNat_lt
    have hfirst : x.toNat / 4 * 4 + (x.toNat % 4 * 16 + y.toNat / 16) / 16 = x.toNat := by omega
    have hsecond : (x.toNat % 4 * 16 + y.toNat / 16) % 16 * 16 +
        (y.toNat % 16 * 4 + z.toNat / 64) / 4 = y.toNat := by omega
    have hthird : (y.toNat % 16 * 4 + z.toNat / 64) % 4 * 64 + z.toNat % 64 = z.toNat := by omega
    rw [splitSextets, joinSextets, ih, Option.map_some, hbyte hfirst, hbyte hsecond, hbyte hthird]
  | case2 x y =>
    have hy := y.toNat_lt
    have hleft : y.toNat % 16 * 4 % 4 = 0 := by omega
    have hfirst : x.toNat / 4 * 4 + (x.toNat % 4 * 16 + y.toNat / 16) / 16 = x.toNat := by omega
    have hsecond : (x.toNat % 4 * 16 + y.toNat / 16) % 16 * 16 + y.toNat % 16 * 4 / 4 =
        y.toNat := by omega
    rw [splitSextets, joinSextets, if_pos hleft, hbyte hfirst, hbyte hsecond]
  | case3 x =>
    have hleft : x.toNat % 4 * 16 % 16 = 0 := by omega
    have hfirst : x.toNat / 4 * 4 + x.toNat % 4 * 16 / 16 = x.toNat := by omega
    rw [splitSextets, joinSextets, if_pos hleft, hbyte hfirst]
  | case4 => rfl

theorem splitSextets_lt (b : Bytes) : ∀ v ∈ splitSextets b, v < 64 := by
  induction b using splitSextets.induct with
  | case1 x y z rest ih =>
    have hx := x.toNat_lt
    have hy := y.toNat_lt
    have hz := z.toNat_lt
    simp only [splitSextets, List.forall_mem_cons]
    exact ⟨by omega, by omega, by omega, by omega, ih⟩
  | case2 x y =>
    have hx := x.toNat_lt
    have hy := y.toNat_lt
    simp only [splitSextets, List.forall_mem_cons]
    exact ⟨by omega, by omega, by omega, List.forall_mem_nil _⟩
  | case3 x =>
    have hx := x.toNat_lt
    simp only [splitSextets, List.forall_mem_cons]
    exact ⟨by omega, by omega, List.forall_mem_nil _⟩
  | case4 => exact List.forall_mem_nil _

/-- The padding fills the last quad. -/
theorem length_splitSextets (b : Bytes) :
    ((splitSextets b).length + (3 - b.length % 3) % 3) % 4 = 0 := by
  induction b using splitSextets.induct with
  | case1 x y z rest ih =>
    simp only [splitSextets, List.length_cons]
    omega
  | case2 x y => simp [splitSextets]
  | case3 x => simp [splitSextets]
  | case4 => rfl

theorem length_splitSextets_eq (b : Bytes) : (splitSextets b).length = (4 * b.length + 2) / 3 := by
  induction b using splitSextets.induct with
  | case1 x y z rest ih =>
    simp only [splitSextets, List.length_cons, ih]
    omega
  | case2 x y => simp [splitSextets]
  | case3 x => simp [splitSextets]
  | case4 => rfl

/-! ## Symbols and padding -/

/-- The alphabet has a symbol for each group of six bits, all of them ASCII and none the padding. -/
structure Complete (alphabet : Alphabet) : Prop where
  distinct : alphabet.Nodup
  size : alphabet.length = 64
  ascii : ∀ c ∈ alphabet, c.toNat < 0x80
  unpadded : '=' ∉ alphabet

theorem complete_base64 : Complete Alphabet.base64 where
  distinct := by decide
  size := by decide
  ascii := Alphabet.ascii_of_all (by decide)
  unpadded := by decide

theorem complete_base64Url : Complete Alphabet.base64Url where
  distinct := by decide
  size := by decide
  ascii := Alphabet.ascii_of_all (by decide)
  unpadded := by decide

/-- The byte of a symbol. -/
def symbolByte (alphabet : Alphabet) (v : Nat) : UInt8 :=
  Bytes.ofAscii (alphabet.symbol v)

section

variable {alphabet : Alphabet} {v : Nat}

theorem Complete.value?_symbolByte (h : Complete alphabet) (hv : v < 64) :
    value? alphabet (symbolByte alphabet v) = some v := by
  rw [← h.size] at hv
  rw [value?, symbolByte, Bytes.ofNat_ofAscii (h.ascii _ (Alphabet.symbol_mem hv)),
    Alphabet.value?_symbol h.distinct hv]

theorem Complete.symbolByte_ne (h : Complete alphabet) (hv : v < 64) :
    symbolByte alphabet v ≠ padding := by
  rw [← h.size] at hv
  intro hpadding
  have hmem := Alphabet.symbol_mem hv
  have hsymbol := Bytes.ofNat_ofAscii (h.ascii _ hmem)
  rw [symbolByte] at hpadding
  rw [hpadding] at hsymbol
  exact h.unpadded (hsymbol ▸ hmem)

theorem Complete.ascii_symbols (h : Complete alphabet) {sextets : List Nat}
    (hsextets : ∀ v ∈ sextets, v < 64) (count : Nat) :
    ∀ c ∈ sextets.map alphabet.symbol ++ List.replicate count '=', c.toNat < 0x80 := by
  intro c hc
  rcases List.mem_append.1 hc with hsymbol | hpadding
  · obtain ⟨v, hv, rfl⟩ := List.mem_map.1 hsymbol
    exact h.ascii _ (Alphabet.symbol_mem (h.size ▸ hsextets v hv))
  · rw [List.eq_of_mem_replicate hpadding]
    decide

theorem Complete.ofChars_symbols (h : Complete alphabet) {sextets : List Nat}
    (hsextets : ∀ v ∈ sextets, v < 64) (count : Nat) :
    Bytes.ofChars (sextets.map alphabet.symbol ++ List.replicate count '=') =
      sextets.map (symbolByte alphabet) ++ List.replicate count padding := by
  rw [Bytes.ofChars_ascii (h.ascii_symbols hsextets count), List.map_append, List.map_map,
    List.map_replicate]
  rfl

theorem Complete.frontValues_symbols (h : Complete alphabet) {sextets : List Nat}
    (hsextets : ∀ v ∈ sextets, v < 64) (offset : Nat) :
    frontValues alphabet offset (sextets.map (symbolByte alphabet)) = .ok sextets := by
  induction sextets generalizing offset with
  | nil => rfl
  | cons v rest ih =>
    obtain ⟨hv, hrest⟩ := List.forall_mem_cons.1 hsextets
    rw [List.map_cons, frontValues, h.value?_symbolByte hv, ih hrest]
    rfl

/-- Padding that fills a quad is read. -/
theorem tailValues_padding {start index count : Nat} (firstPad : Option Nat) (hcount : count ≤ 2)
    (hquad : (index + count) % 4 = 0) :
    tailValues alphabet start index firstPad (List.replicate count padding) = .ok [] := by
  induction count generalizing index firstPad with
  | zero => rfl
  | succ count ih =>
    rw [List.replicate_succ]
    unfold tailValues
    rw [if_pos rfl, if_neg (by omega), ih _ (by omega) (by omega)]

theorem Complete.tailValues_symbols (h : Complete alphabet) {sextets : List Nat}
    (hsextets : ∀ v ∈ sextets, v < 64) {start index count : Nat} (hcount : count ≤ 2)
    (hquad : (index + sextets.length + count) % 4 = 0) :
    tailValues alphabet start index none
      (sextets.map (symbolByte alphabet) ++ List.replicate count padding) = .ok sextets := by
  induction sextets generalizing index with
  | nil => exact tailValues_padding none hcount hquad
  | cons v rest ih =>
    obtain ⟨hv, hrest⟩ := List.forall_mem_cons.1 hsextets
    rw [List.length_cons] at hquad
    rw [List.map_cons, List.cons_append, tailValues, if_neg (h.symbolByte_ne hv)]
    simp only [h.value?_symbolByte hv]
    rw [ih hrest (by omega)]
    rfl

/-- The last chunk ends a quad and holds all padding. -/
theorem tailLength_bounds (length : Nat) (hquad : length % 4 = 0) :
    tailLength length % 4 = 0 ∧ (0 < length → 4 ≤ tailLength length) ∧ tailLength length ≤ length := by
  unfold tailLength
  split <;> omega

theorem Complete.values_padded (h : Complete alphabet) {sextets : List Nat}
    (hsextets : ∀ v ∈ sextets, v < 64) {count : Nat} (hcount : count ≤ 2)
    (hquad : (sextets.length + count) % 4 = 0) :
    values alphabet (sextets.map (symbolByte alphabet) ++ List.replicate count padding) =
      .ok sextets := by
  have hlength : (sextets.map (symbolByte alphabet) ++ List.replicate count padding).length =
      sextets.length + count := by simp
  obtain ⟨htail, hsome, hle⟩ := tailLength_bounds _ hquad
  unfold values
  simp only [hlength]
  generalize hstart : sextets.length + count - tailLength (sextets.length + count) = start
  -- The last chunk is longer than the padding, so the text is split among its symbols.
  have hfront : start ≤ (sextets.map (symbolByte alphabet)).length := by
    rw [List.length_map]
    omega
  have htake : frontValues alphabet 0 ((sextets.take start).map (symbolByte alphabet)) =
      .ok (sextets.take start) :=
    h.frontValues_symbols (fun v hv => hsextets v (List.mem_of_mem_take hv)) 0
  have hdrop : tailValues alphabet start 0 none
      ((sextets.drop start).map (symbolByte alphabet) ++ List.replicate count padding) =
      .ok (sextets.drop start) := by
    refine h.tailValues_symbols (fun v hv => hsextets v (List.mem_of_mem_drop hv)) hcount ?_
    rw [List.length_drop]
    omega
  rw [List.take_append_of_le_length hfront, List.drop_append_of_le_length hfront, ← List.map_take,
    ← List.map_drop, htake, ok_bind, hdrop, ok_bind, List.take_append_drop]

end

theorem decode_encode (b : Bytes) : decode (encode b) = .ok b := by
  have hquad := length_splitSextets b
  have hcount : (3 - b.length % 3) % 3 ≤ 2 := by omega
  have hvalues := complete_base64.values_padded (splitSextets_lt b) hcount hquad
  rw [decode, decodeIn, encode, encodePadded, encodeUnpadded, paddingFor,
    complete_base64.ofChars_symbols (splitSextets_lt b), decodeBytes, if_neg]
  · simp only [hvalues, joinSextets_splitSextets]
  · simp only [List.length_append, List.length_map, List.length_replicate]
    omega

/-! ## Texts that are read -/

/-- The text without the padding at its end. -/
def unpadded (s : List Char) : List Char :=
  s.rdropWhile (· == '=')

theorem unpadded_append {s : List Char} (h : '=' ∉ s) (count : Nat) :
    unpadded (s ++ List.replicate count '=') = s := by
  rw [unpadded, List.rdropWhile, List.reverse_append, List.reverse_replicate,
    List.dropWhile_append_of_pos (by simp), ← List.rdropWhile, List.rdropWhile_eq_self_iff]
  intro hne hlast
  exact h (eq_of_beq hlast ▸ List.getLast_mem hne)

/-- Bytes that were read from groups of six bits are cut into these groups again. -/
theorem splitSextets_of_joinSextets {sextets : List Nat} {b : Bytes} (hlt : ∀ v ∈ sextets, v < 64)
    (h : joinSextets sextets = some b) : splitSextets b = sextets := by
  have hbyte {n : Nat} (hn : n < 256) : (UInt8.ofNat n).toNat = n := UInt8.toNat_ofNat_of_lt' hn
  induction sextets using joinSextets.induct generalizing b with
  | case1 w x y z rest ih =>
    simp only [List.forall_mem_cons] at hlt
    obtain ⟨hw, hx, hy, hz, hrest⟩ := hlt
    rw [joinSextets] at h
    obtain ⟨bytes, hbytes, rfl⟩ := Option.map_eq_some_iff.1 h
    rw [splitSextets, ih hrest hbytes, hbyte (by omega), hbyte (by omega), hbyte (by omega)]
    simp only [List.cons.injEq, and_true]
    omega
  | case2 x y z hleft =>
    simp only [List.forall_mem_cons] at hlt
    obtain ⟨hx, hy, hz, -⟩ := hlt
    rw [joinSextets, if_pos hleft] at h
    obtain rfl := Option.some.inj h
    rw [splitSextets, hbyte (by omega), hbyte (by omega)]
    simp only [List.cons.injEq, and_true]
    omega
  | case3 x y z hleft =>
    rw [joinSextets, if_neg hleft] at h
    cases h
  | case4 x y hleft =>
    simp only [List.forall_mem_cons] at hlt
    obtain ⟨hx, hy, -⟩ := hlt
    rw [joinSextets, if_pos hleft] at h
    obtain rfl := Option.some.inj h
    rw [splitSextets, hbyte (by omega)]
    simp only [List.cons.injEq, and_true]
    omega
  | case5 x y hleft =>
    rw [joinSextets, if_neg hleft] at h
    cases h
  | case6 x => cases h
  | case7 =>
    obtain rfl := Option.some.inj h
    rfl

section

variable {alphabet : Alphabet} {start : Nat} {text : Bytes} {sextets : List Nat}

theorem Complete.symbolByte_of_value? (h : Complete alphabet) {x : UInt8} {v : Nat}
    (hvalue : value? alphabet x = some v) : v < 64 ∧ symbolByte alphabet v = x := by
  obtain ⟨hv, hsymbol⟩ := Alphabet.symbol_of_value? hvalue
  refine ⟨h.size ▸ hv, ?_⟩
  rw [symbolByte, hsymbol, Bytes.ofAscii_ofNat]

theorem Complete.symbols_of_frontValues (h : Complete alphabet) {offset : Nat}
    (hread : frontValues alphabet offset text = .ok sextets) :
    (∀ v ∈ sextets, v < 64) ∧ text = sextets.map (symbolByte alphabet) := by
  induction text generalizing offset sextets with
  | nil =>
    obtain rfl := Except.ok.inj hread
    exact ⟨List.forall_mem_nil _, rfl⟩
  | cons x text ih =>
    rw [frontValues] at hread
    split at hread
    · cases hread
    · next v hvalue =>
      obtain ⟨hv, hsymbol⟩ := h.symbolByte_of_value? hvalue
      obtain ⟨rest, hrest, rfl⟩ := map_eq_ok_iff.1 hread
      obtain ⟨hlt, hsymbols⟩ := ih hrest
      exact ⟨List.forall_mem_cons.2 ⟨hv, hlt⟩, by rw [List.map_cons, hsymbol, hsymbols]⟩

/-- After padding only padding is read. -/
theorem padding_of_tailValues {index first : Nat}
    (hread : tailValues alphabet start index (some first) text = .ok sextets) :
    sextets = [] ∧ ∃ count, text = List.replicate count padding := by
  induction text generalizing index with
  | nil => exact ⟨(Except.ok.inj hread).symm, 0, rfl⟩
  | cons x text ih =>
    unfold tailValues at hread
    split at hread
    · next hpadding =>
      split at hread
      · cases hread
      · obtain ⟨hnone, count, hrest⟩ := ih hread
        exact ⟨hnone, count + 1, by rw [hrest, hpadding, List.replicate_succ]⟩
    · cases hread

theorem Complete.symbols_of_tailValues (h : Complete alphabet) {index : Nat}
    (hread : tailValues alphabet start index none text = .ok sextets) :
    (∀ v ∈ sextets, v < 64) ∧
      ∃ count, text = sextets.map (symbolByte alphabet) ++ List.replicate count padding := by
  induction text generalizing index sextets with
  | nil =>
    obtain rfl := Except.ok.inj hread
    exact ⟨List.forall_mem_nil _, 0, rfl⟩
  | cons x text ih =>
    unfold tailValues at hread
    split at hread
    · next hpadding =>
      split at hread
      · cases hread
      · obtain ⟨rfl, count, hrest⟩ := padding_of_tailValues hread
        exact ⟨List.forall_mem_nil _, count + 1, by
          rw [hrest, hpadding, List.map_nil, List.nil_append, List.replicate_succ]⟩
    · simp only at hread
      split at hread
      · cases hread
      · next v hvalue =>
        obtain ⟨hv, hsymbol⟩ := h.symbolByte_of_value? hvalue
        obtain ⟨rest, hrest, rfl⟩ := map_eq_ok_iff.1 hread
        obtain ⟨hlt, count, hsymbols⟩ := ih hrest
        exact ⟨List.forall_mem_cons.2 ⟨hv, hlt⟩, count, by
          rw [List.map_cons, hsymbol, List.cons_append, hsymbols]⟩

theorem Complete.symbols_of_values (h : Complete alphabet)
    (hread : values alphabet text = .ok sextets) :
    (∀ v ∈ sextets, v < 64) ∧
      ∃ count, text = sextets.map (symbolByte alphabet) ++ List.replicate count padding := by
  simp only [values, bind_eq_ok_iff] at hread
  obtain ⟨front, hfront, tail, htail, hjoined⟩ := hread
  obtain rfl := Except.ok.inj hjoined
  obtain ⟨hfrontLt, htake⟩ := h.symbols_of_frontValues hfront
  obtain ⟨htailLt, count, hdrop⟩ := h.symbols_of_tailValues htail
  refine ⟨List.forall_mem_append.2 ⟨hfrontLt, htailLt⟩, count, ?_⟩
  rw [List.map_append, List.append_assoc, ← htake, ← hdrop, List.take_append_drop]

theorem Complete.padding_notMem (h : Complete alphabet) (b : Bytes) :
    '=' ∉ encodeUnpadded alphabet b := by
  intro hpadding
  obtain ⟨v, hv, hsymbol⟩ := List.mem_map.1 hpadding
  exact h.unpadded (hsymbol ▸ Alphabet.symbol_mem (h.size ▸ splitSextets_lt b v hv))

theorem sextets_of_decodeBytes {b : Bytes} (hread : decodeBytes alphabet text = .ok b) :
    ∃ sextets, values alphabet text = .ok sextets ∧ joinSextets sextets = some b := by
  rw [decodeBytes] at hread
  split at hread
  · split at hread
    · split at hread <;> cases hread
    · cases hread
  · split at hread
    · cases hread
    · next sextets hvalues =>
      split at hread
      · next bytes hjoin => exact ⟨sextets, hvalues, Except.ok.inj hread ▸ hjoin⟩
      · cases hread

/-- A text that is read as bytes is the symbols of the bytes and some padding. -/
theorem Complete.eq_of_decodeIn (h : Complete alphabet) {s : List Char} {b : Bytes}
    (hread : decodeIn alphabet s = .ok b) :
    ∃ count, s = encodeUnpadded alphabet b ++ List.replicate count '=' := by
  obtain ⟨sextets, hvalues, hjoin⟩ := sextets_of_decodeBytes hread
  obtain ⟨hlt, count, htext⟩ := h.symbols_of_values hvalues
  obtain rfl := splitSextets_of_joinSextets hlt hjoin
  refine ⟨count, Bytes.eq_of_ofChars (h.ascii_symbols hlt count) ?_⟩
  rw [htext, encodeUnpadded, h.ofChars_symbols hlt count]

/-- Without its padding, a text that is read as bytes is the symbols of the bytes. -/
theorem Complete.unpadded_eq_of_decodeIn (h : Complete alphabet) {s : List Char} {b : Bytes}
    (hread : decodeIn alphabet s = .ok b) : Base64.unpadded s = encodeUnpadded alphabet b := by
  obtain ⟨count, rfl⟩ := h.eq_of_decodeIn hread
  exact unpadded_append (h.padding_notMem b) count

end

theorem unpadded_encode_of_decode {s : List Char} {b : Bytes} (h : decode s = .ok b) :
    unpadded (encode b) = unpadded s := by
  obtain ⟨count, rfl⟩ := complete_base64.eq_of_decodeIn h
  have hsymbols := complete_base64.padding_notMem b
  rw [encode, encodePadded, paddingFor, unpadded_append hsymbols, unpadded_append hsymbols]

end DidAdmission.Base64
