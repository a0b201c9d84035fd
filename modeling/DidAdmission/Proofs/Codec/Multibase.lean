-- SUMMARY: Behind its code, a multibase text is read as the codec of that base reads it.
import DidAdmission.Proofs.Codec.Encodings

/-!
# Multibase and the other codecs

The bases that have a codec of their own are read alike behind a code of multibase. Base58 has one text for
each byte string in both. The two codes of hexadecimal differ in nothing: behind either, digits of both
cases are read. The four codes of Base64 read what is written in their alphabet with or without padding;
padded texts are cut into quads first, and each quad is the padded text of the bytes it holds.
-/

namespace DidAdmission

namespace Multibase

variable {code : Char} {base : Base} {s : List Char} {b : Bytes} {alphabet : Alphabet}

theorem decode_eq_ok_iff (h : Base.ofCode? code = some base) :
    decode (code :: s) = .ok b ↔ base.decode? s = some b := by
  simp only [decode, h]
  cases base.decode? s <;> simp

/-! ## Base58 -/

theorem base58_decode_eq_ok_iff : Base58.decode s = .ok b ↔ Base58.encode b = s :=
  ⟨Base58.encode_of_decode, fun h => h ▸ Base58.decode_encode b⟩

theorem decode_bitcoin_iff : decode ('z' :: s) = .ok b ↔ Base58.decode s = .ok b := by
  rw [base58_decode_eq_ok_iff]
  constructor
  · intro h
    exact (List.cons.inj (encode_of_decode rfl h)).2
  · rintro rfl
    exact decode_encode b

/-! ## Hexadecimal -/

theorem decode_hex_iff (h : Base.ofCode? code = some .base16) :
    decode (code :: s) = .ok b ↔ Hex.decode s = .ok b := by
  rw [decode_eq_ok_iff h, Base.decode?, toOption_eq_some_iff]

/-! ## Base64 -/

theorem decodeSextets?_encodeUnpadded (h : Base64.Complete alphabet) (b : Bytes) :
    decodeSextets? alphabet (Base64.encodeUnpadded alphabet b) = some b := by
  have hlt : ∀ v ∈ Base64.splitSextets b, v < alphabet.length := h.size ▸ Base64.splitSextets_lt b
  rw [decodeSextets?, Base64.encodeUnpadded, values?_symbols h.distinct hlt, Option.bind_some,
    Base64.joinSextets_splitSextets]

theorem unpadBlock?_encodePadded (h : Base64.Complete alphabet) (hne : b ≠ []) :
    BitGroups.unpadBlock? (Base64.encodePadded alphabet b) =
      some (Base64.encodeUnpadded alphabet b) := by
  have hsymbols : ((Base64.encodePadded alphabet b).reverse.dropWhile (· == '=')).reverse =
      Base64.encodeUnpadded alphabet b :=
    Base64.unpadded_append (h.padding_notMem b) _
  have hlength : (Base64.encodeUnpadded alphabet b).length = (4 * b.length + 2) / 3 := by
    rw [Base64.encodeUnpadded, List.length_map, Base64.length_splitSextets_eq]
  have hpos := List.length_pos_of_ne_nil hne
  have hsome : (Base64.encodeUnpadded alphabet b).isEmpty = false := by
    rw [List.isEmpty_eq_false_iff, ← List.length_pos_iff]
    omega
  simp only [BitGroups.unpadBlock?, hsymbols, hsome]
  rfl

/-- A quad is the padded text of the one, two or three bytes that it holds. -/
theorem decodeQuad_encodePadded (h : Base64.Complete alphabet) (hne : b ≠ []) :
    (BitGroups.unpadBlock? (Base64.encodePadded alphabet b)).bind (decodeSextets? alphabet) = some b := by
  rw [unpadBlock?_encodePadded h hne, Option.bind_some, decodeSextets?_encodeUnpadded h]

theorem length_encodePadded (alphabet : Alphabet) (b : Bytes) :
    (Base64.encodePadded alphabet b).length = 4 * ((b.length + 2) / 3) := by
  rw [Base64.encodePadded, Base64.encodeUnpadded, Base64.paddingFor, List.length_append, List.length_map,
    List.length_replicate, Base64.length_splitSextets_eq]
  omega

theorem encodePadded_append (alphabet : Alphabet) (x y z : UInt8) (b : Bytes) :
    Base64.encodePadded alphabet (x :: y :: z :: b) =
      Base64.encodePadded alphabet [x, y, z] ++ Base64.encodePadded alphabet b := by
  have hpadding : Base64.paddingFor (x :: y :: z :: b).length = Base64.paddingFor b.length := by
    simp only [Base64.paddingFor, List.length_cons, Nat.add_assoc, Nat.add_mod_right]
  rw [Base64.encodePadded, hpadding]
  simp [Base64.encodePadded, Base64.encodeUnpadded, Base64.splitSextets, Base64.paddingFor]

theorem blocks_append {α : Type} {size : Nat} {block : List α} (hsize : block.length = size)
    (hne : block ≠ []) (fuel : Nat) (items : List α) :
    BitGroups.blocks size (fuel + 1) (block ++ items) = block :: BitGroups.blocks size fuel items := by
  have hsome : (block ++ items).isEmpty = false := by simp [hne]
  rw [BitGroups.blocks, hsome, List.take_left' hsize, List.drop_left' hsize]
  rfl

/-- The bytes of the quads of a padded text. -/
def quadBytes? (alphabet : Alphabet) (quads : List (List Char)) : Option Bytes :=
  (quads.mapM fun quad => (BitGroups.unpadBlock? quad).bind (decodeSextets? alphabet)).map List.flatten

theorem quadBytes?_append (h : Base64.Complete alphabet) {first rest : Bytes} {fuel : Nat}
    (hne : first ≠ []) (hle : first.length ≤ 3)
    (hrest : quadBytes? alphabet (BitGroups.blocks 4 fuel (Base64.encodePadded alphabet rest)) =
      some rest) :
    quadBytes? alphabet (BitGroups.blocks 4 (fuel + 1)
      (Base64.encodePadded alphabet first ++ Base64.encodePadded alphabet rest)) =
      some (first ++ rest) := by
  have hpos := List.length_pos_of_ne_nil hne
  have hsize : (Base64.encodePadded alphabet first).length = 4 := by
    rw [length_encodePadded]
    omega
  have hquad : Base64.encodePadded alphabet first ≠ [] := List.ne_nil_of_length_pos (by omega)
  obtain ⟨quads, hquads, rfl⟩ := Option.map_eq_some_iff.1 hrest
  rw [blocks_append hsize hquad, quadBytes?, List.mapM_cons, decodeQuad_encodePadded h hne, hquads]
  rfl

theorem quadBytes?_nil (alphabet : Alphabet) (fuel : Nat) :
    quadBytes? alphabet (BitGroups.blocks 4 fuel (Base64.encodePadded alphabet [])) = some [] := by
  cases fuel <;> rfl

theorem quadBytes?_last (h : Base64.Complete alphabet) {last : Bytes} (hne : last ≠ [])
    (hle : last.length ≤ 3) {fuel : Nat} (hfuel : last.length ≤ fuel) :
    quadBytes? alphabet (BitGroups.blocks 4 fuel (Base64.encodePadded alphabet last)) = some last := by
  have hpos := List.length_pos_of_ne_nil hne
  obtain ⟨fuel, rfl⟩ := Nat.exists_eq_succ_of_ne_zero (by omega : fuel ≠ 0)
  have hempty : Base64.encodePadded alphabet [] = [] := rfl
  have hquad := quadBytes?_append h hne hle (quadBytes?_nil alphabet fuel)
  rwa [hempty, List.append_nil, List.append_nil] at hquad

/-- The quads of a padded text are read one after another. The induction is on the groups of three bytes,
each of which fills a quad; what is left over fills the last one with padding. -/
theorem quadBytes?_encodePadded (h : Base64.Complete alphabet) (b : Bytes) {fuel : Nat}
    (hfuel : b.length ≤ fuel) :
    quadBytes? alphabet (BitGroups.blocks 4 fuel (Base64.encodePadded alphabet b)) = some b := by
  induction b using Base64.splitSextets.induct generalizing fuel with
  | case1 x y z rest ih =>
    rw [List.length_cons, List.length_cons, List.length_cons] at hfuel
    obtain ⟨fuel, rfl⟩ := Nat.exists_eq_succ_of_ne_zero (by omega : fuel ≠ 0)
    rw [encodePadded_append]
    exact quadBytes?_append h (List.cons_ne_nil x [y, z]) le_rfl (ih (by omega))
  | case2 x y => exact quadBytes?_last h (List.cons_ne_nil _ _) (Nat.le_succ _) hfuel
  | case3 x => exact quadBytes?_last h (List.cons_ne_nil _ _) (Nat.le_add_left _ _) hfuel
  | case4 => exact quadBytes?_nil alphabet fuel

theorem decodePadded?_encodePadded (h : Base64.Complete alphabet) (b : Bytes) :
    BitGroups.decodePadded? 4 (decodeSextets? alphabet) (Base64.encodePadded alphabet b) = some b := by
  have hlength := length_encodePadded alphabet b
  rw [BitGroups.decodePadded?, if_pos (by omega)]
  exact quadBytes?_encodePadded h b (by omega)

end Multibase

/-! ## Texts -/

namespace Encoding

variable {t : String} {b : Bytes}

theorem decodeText_multibase_iff {lead : String} {code : Char} (hlead : lead.toList = [code]) :
    multibase.decodeText (lead ++ t) = .ok b ↔ Multibase.decode (code :: t.toList) = .ok b := by
  rw [decodeText, String.toList_append, hlead, mapError_eq_ok_iff]
  rfl

theorem decodeText_base58_iff : base58.decodeText t = .ok b ↔ Base58.decode t.toList = .ok b :=
  mapError_eq_ok_iff

theorem decodeText_hex_iff : hex.decodeText t = .ok b ↔ Hex.decode t.toList = .ok b :=
  mapError_eq_ok_iff

theorem decodeText_multibase_ofList {lead : String} {code : Char} {base : Multibase.Base}
    {s : List Char} (hlead : lead.toList = [code]) (hcode : Multibase.Base.ofCode? code = some base)
    (hread : base.decode? s = some b) : multibase.decodeText (lead ++ String.ofList s) = .ok b := by
  rw [decodeText_multibase_iff hlead, Multibase.decode_eq_ok_iff hcode, String.toList_ofList, hread]

/-- Behind its code in multibase, a text stands for what it stands for in the codec of the base: any text
in Base58, any text in hexadecimal whatever the cases of its code and its digits are, and the texts of bytes
in both alphabets of Base64, with their padding or without it. -/
theorem multibase_agrees_with_codecs (t : String) (b : Bytes) :
    (multibase.decodeText ("z" ++ t) = .ok b ↔ base58.decodeText t = .ok b) ∧
    (multibase.decodeText ("f" ++ t) = .ok b ↔ hex.decodeText t = .ok b) ∧
    (multibase.decodeText ("F" ++ t) = .ok b ↔ hex.decodeText t = .ok b) ∧
    multibase.decodeText ("m" ++ String.ofList (Base64.encodeUnpadded Alphabet.base64 b)) = .ok b ∧
    multibase.decodeText ("M" ++ String.ofList (Base64.encodePadded Alphabet.base64 b)) = .ok b ∧
    multibase.decodeText ("u" ++ String.ofList (Base64.encodeUnpadded Alphabet.base64Url b)) = .ok b ∧
    multibase.decodeText ("U" ++ String.ofList (Base64.encodePadded Alphabet.base64Url b)) = .ok b := by
  have hstandard := Base64.complete_base64
  have hurl := Base64.complete_base64Url
  refine ⟨?bitcoin, ?lower, ?upper, ?unpadded, ?padded, ?unpaddedUrl, ?paddedUrl⟩
  case bitcoin =>
    have hlead : "z".toList = ['z'] := rfl
    rw [decodeText_multibase_iff hlead, Multibase.decode_bitcoin_iff, decodeText_base58_iff]
  case lower =>
    have hlead : "f".toList = ['f'] := rfl
    have hcode : Multibase.Base.ofCode? 'f' = some .base16 := rfl
    rw [decodeText_multibase_iff hlead, Multibase.decode_hex_iff hcode, decodeText_hex_iff]
  case upper =>
    have hlead : "F".toList = ['F'] := rfl
    have hcode : Multibase.Base.ofCode? 'F' = some .base16 := rfl
    rw [decodeText_multibase_iff hlead, Multibase.decode_hex_iff hcode, decodeText_hex_iff]
  case unpadded =>
    have hlead : "m".toList = ['m'] := rfl
    have hcode : Multibase.Base.ofCode? 'm' = some .base64 := rfl
    exact decodeText_multibase_ofList hlead hcode (Multibase.decodeSextets?_encodeUnpadded hstandard b)
  case padded =>
    have hlead : "M".toList = ['M'] := rfl
    have hcode : Multibase.Base.ofCode? 'M' = some .base64Padded := rfl
    exact decodeText_multibase_ofList hlead hcode (Multibase.decodePadded?_encodePadded hstandard b)
  case unpaddedUrl =>
    have hlead : "u".toList = ['u'] := rfl
    have hcode : Multibase.Base.ofCode? 'u' = some .base64Url := rfl
    exact decodeText_multibase_ofList hlead hcode (Multibase.decodeSextets?_encodeUnpadded hurl b)
  case paddedUrl =>
    have hlead : "U".toList = ['U'] := rfl
    have hcode : Multibase.Base.ofCode? 'U' = some .base64UrlPadded := rfl
    exact decodeText_multibase_ofList hlead hcode (Multibase.decodePadded?_encodePadded hurl b)

/-- Digits are read behind the code of the other case too, so neither code keeps to its own case. -/
theorem codes_read_both_cases :
    (multibase.decodeText "fAB" = .ok [0xAB] ∧ multibase.decodeText "Fab" = .ok [0xAB]) ∧
    (¬ ∀ t b, multibase.decodeText ("f" ++ t) = .ok b ↔
      hex.decodeText t = .ok b ∧ ∀ c ∈ t.toList, c.isUpper = false) ∧
    ¬ ∀ t b, multibase.decodeText ("F" ++ t) = .ok b ↔
      hex.decodeText t = .ok b ∧ ∀ c ∈ t.toList, c.isLower = false := by
  have hlower : multibase.decodeText "fAB" = .ok [0xAB] := toOption_eq_some_iff.1 (by decide +kernel)
  have hupper : multibase.decodeText "Fab" = .ok [0xAB] := toOption_eq_some_iff.1 (by decide +kernel)
  refine ⟨⟨hlower, hupper⟩, fun hall => ?_, fun hall => ?_⟩
  · have hcase := ((hall "AB" [0xAB]).1 hlower).2 'A' (by decide)
    exact absurd hcase (by decide)
  · have hcase := ((hall "ab" [0xAB]).1 hupper).2 'a' (by decide)
    exact absurd hcase (by decide)

end Encoding

end DidAdmission
