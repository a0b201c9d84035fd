-- SUMMARY: What a web key is decoded to: the form in which keys of its type are used.
import DidAdmission.Proofs.Codec.Base64
import DidAdmission.Proofs.Codec.Distinguished
import DidAdmission.Proofs.Codec.WebKeys

/-!
# Native keys

A web key of a supported type is decoded to the form in which keys of that type are used
(`Jwk.NativeForm`), from a value and from a text alike. The point of an elliptic-curve key has its two
coordinates in full, and the integers of an RSA key are found again by a strict reader. The bytes of an
Ed25519 key are not counted: there are as many as its text has, and 32 just if that is of 43 symbols.
-/

namespace DidAdmission

namespace Jwk

variable {key : Jwk} {m : Member} {b : Bytes}

/-- The member is written in the alphabet for URLs. -/
def Holds (key : Jwk) (m : Member) (b : Bytes) : Prop :=
  ∃ t, key.text? m = some t ∧ Base64.decodeIn Alphabet.base64Url t.toList = .ok b

theorem memberBytes_eq_ok_iff : memberBytes m.name (key.text? m) = .ok b ↔ key.Holds m b := by
  unfold memberBytes Holds
  cases key.text? m with
  | none => simp
  | some t => simp [mapError_eq_ok_iff]

/-- The form in which keys of a type are used. -/
inductive NativeForm (key : Jwk) : Bytes → Prop
  /-- The bytes of an Ed25519 key, however many. -/
  | raw {x : Bytes} (hkty : key.kty = "OKP") (hcrv : key.crv = some "Ed25519") (hx : key.Holds .x x) :
    NativeForm key x
  /-- The point of a secp256k1 key, uncompressed. -/
  | point {x y : Bytes} (hkty : key.kty = "EC") (hcrv : key.crv = some "secp256k1")
    (hx : key.Holds .x x) (hy : key.Holds .y y) (hwidth : x.length = 32 ∧ y.length = 32) :
    NativeForm key (0x04 :: (x ++ y))
  /-- The modulus and the exponent of an RSA key, in distinguished encoding. -/
  | integers {n e : Bytes} (hkty : key.kty = "RSA") (hn : key.Holds .n n) (he : key.Holds .e e) :
    NativeForm key (Der.integerPair n e)

/-- A key has bytes just if it is of a supported type and holds what the type needs. -/
theorem keyBytes_eq_ok_iff : key.keyBytes = .ok b ↔ key.NativeForm b := by
  unfold keyBytes
  constructor
  · intro h
    split_ifs at h with hraw hpoint hintegers
    · exact .raw hraw.1 hraw.2 (memberBytes_eq_ok_iff.1 h)
    · simp only [bind_eq_ok_iff] at h
      obtain ⟨x, hx, y, hy, h⟩ := h
      split_ifs at h with hwidth
      obtain rfl := Except.ok.inj h
      exact .point hpoint.1 hpoint.2 (memberBytes_eq_ok_iff.1 hx) (memberBytes_eq_ok_iff.1 hy)
        (by omega)
    · simp only [bind_eq_ok_iff] at h
      obtain ⟨n, hn, e, he, h⟩ := h
      obtain rfl := Except.ok.inj h
      exact .integers hintegers (memberBytes_eq_ok_iff.1 hn) (memberBytes_eq_ok_iff.1 he)
  · rintro (⟨hkty, hcrv, hx⟩ | ⟨hkty, hcrv, hx, hy, hwidth⟩ | ⟨hkty, hn, he⟩)
    · rw [if_pos ⟨hkty, hcrv⟩]
      exact memberBytes_eq_ok_iff.2 hx
    · have hx' := memberBytes_eq_ok_iff.2 hx
      have hy' := memberBytes_eq_ok_iff.2 hy
      simp only [Member.name, text?] at hx' hy'
      simp [hkty, hcrv, hx', hy', hwidth, uncompressedPoint]
    · have hn' := memberBytes_eq_ok_iff.2 hn
      have he' := memberBytes_eq_ok_iff.2 he
      simp only [Member.name, text?] at hn' he'
      simp [hkty, hn', he']

/-- A key is carried by a value that it is made of, or by a text. -/
inductive Carries : Json → Jwk → Prop
  | value {value : Json} {key : Jwk} (h : ofValue value = .ok key) : Carries value key
  | text {t : String} {key : Jwk} (h : ofText t = .ok key) : Carries (.text t) key

end Jwk

theorem Encoding.decodeValue_jwk_eq_ok_iff {value : Json} {b : Bytes} :
    Encoding.jwk.decodeValue value = .ok b ↔ ∃ key, Jwk.Carries value key ∧ key.NativeForm b := by
  cases value with
  | text t =>
    simp only [decodeValue, Jwk.decodeValue, mapError_eq_ok_iff, bind_eq_ok_iff,
      Jwk.keyBytes_eq_ok_iff]
    refine exists_congr fun key => and_congr_left fun _ => ⟨.text, fun h => ?_⟩
    cases h with
    | value h => simp [Jwk.ofValue] at h
    | text h => exact h
  | _ =>
    simp only [decodeValue, Jwk.decodeValue, mapError_eq_ok_iff, bind_eq_ok_iff,
      Jwk.keyBytes_eq_ok_iff]
    refine exists_congr fun key => and_congr_left fun _ => ⟨.value, fun h => ?_⟩
    cases h with
    | value h => exact h

theorem Encoding.decodeText_jwk_eq_ok_iff {t : String} {b : Bytes} :
    Encoding.jwk.decodeText t = .ok b ↔
      ∃ value key, Json.read t = .ok value ∧ Jwk.Carries value key ∧ key.NativeForm b := by
  rw [decodeText]
  cases hread : Json.read t with
  | error fault => simp
  | ok value =>
    have hvalue : (Jwk.decodeValue value).mapError Fault.jwk = jwk.decodeValue value := rfl
    simp [hvalue, decodeValue_jwk_eq_ok_iff]

namespace Jwk.NativeForm

variable {key : Jwk} {b : Bytes}

/-- An Ed25519 key is of 32 bytes just if it is written with 43 symbols. -/
theorem raw_size (h : key.NativeForm b) (hkty : key.kty = "OKP") :
    ∃ t, key.x = some t ∧ Base64.unpadded t.toList = Base64.encodeUnpadded Alphabet.base64Url b ∧
      (b.length = 32 ↔ (Base64.unpadded t.toList).length = 43) := by
  cases h with
  | raw _ _ hx =>
    obtain ⟨t, ht, hread⟩ := hx
    have hsymbols := Base64.complete_base64Url.unpadded_eq_of_decodeIn hread
    refine ⟨t, ht, hsymbols, ?_⟩
    rw [hsymbols, Base64.encodeUnpadded, List.length_map, Base64.length_splitSextets_eq]
    omega
  | point hkty' => simp [hkty'] at hkty
  | integers hkty' => simp [hkty'] at hkty

/-- The point of an elliptic-curve key is of 65 bytes: the mark of an uncompressed point and the two
coordinates in full. -/
theorem point_size (h : key.NativeForm b) (hkty : key.kty = "EC") :
    b.length = 65 ∧ ∃ x y, b = 0x04 :: (x ++ y) ∧ x.length = 32 ∧ y.length = 32 ∧
      key.Holds .x x ∧ key.Holds .y y := by
  cases h with
  | raw hkty' => simp [hkty'] at hkty
  | point _ _ hx hy hwidth =>
    exact ⟨by simp [hwidth], _, _, rfl, hwidth.1, hwidth.2, hx, hy⟩
  | integers hkty' => simp [hkty'] at hkty

/-- The integers of an RSA key are all that a strict reader finds. -/
theorem integers_read (h : key.NativeForm b) (hkty : key.kty = "RSA") :
    ∃ n e, key.Holds .n n ∧ key.Holds .e e ∧ b = Der.integerPair n e ∧
      ∀ limit : Der.Limit, limit.Admits (Der.unsignedInteger n ++ Der.unsignedInteger e).length →
        Der.readIntegerPair? limit b = some (n.toNat, e.toNat) := by
  cases h with
  | raw hkty' => simp [hkty'] at hkty
  | point hkty' => simp [hkty'] at hkty
  | integers _ hn he =>
    exact ⟨_, _, hn, he, rfl, fun limit hlimit => Der.readIntegerPair?_integerPair hlimit⟩

end Jwk.NativeForm

/-- A web key is decoded to the native form of its type from a value and from a text, and to nothing
else; but the bytes of an Ed25519 key are not counted. -/
theorem web_keys_decode_natively (b : Bytes) :
    (∀ value, Encoding.jwk.decodeValue value = .ok b ↔
      ∃ key, Jwk.Carries value key ∧ key.NativeForm b) ∧
    (∀ t, Encoding.jwk.decodeText t = .ok b ↔
      ∃ value key, Json.read t = .ok value ∧ Jwk.Carries value key ∧ key.NativeForm b) ∧
    ∀ key : Jwk, key.NativeForm b →
      (key.kty = "OKP" → ∃ t, key.x = some t ∧
        Base64.unpadded t.toList = Base64.encodeUnpadded Alphabet.base64Url b ∧
        (b.length = 32 ↔ (Base64.unpadded t.toList).length = 43)) ∧
      (key.kty = "EC" → b.length = 65 ∧ ∃ x y, b = 0x04 :: (x ++ y) ∧ x.length = 32 ∧
        y.length = 32 ∧ key.Holds .x x ∧ key.Holds .y y) ∧
      (key.kty = "RSA" → ∃ n e, key.Holds .n n ∧ key.Holds .e e ∧ b = Der.integerPair n e ∧
        ∀ limit : Der.Limit, limit.Admits (Der.unsignedInteger n ++ Der.unsignedInteger e).length →
          Der.readIntegerPair? limit b = some (n.toNat, e.toNat)) :=
  ⟨fun _ => Encoding.decodeValue_jwk_eq_ok_iff, fun _ => Encoding.decodeText_jwk_eq_ok_iff,
    fun _ h => ⟨h.raw_size, h.point_size, h.integers_read⟩⟩

/-! ## A key of one byte and a pair of integers -/

namespace Jwk

/-- A modulus whose first bit is set, and an exponent. -/
def smallPair : Json.Object :=
  [("e", .text "AQAB"), ("kty", .text "RSA"), ("n", .text "gA")]

def smallPairKey : Jwk := ⟨"RSA", none, none, none, some "gA", some "AQAB"⟩

def smallPairBytes : Bytes :=
  [0x30, 0x09, 0x02, 0x02, 0x00, 0x80, 0x02, 0x03, 0x01, 0x00, 0x01]

theorem smallPair_read_back :
    Encoding.jwk.decodeValue (.object smallPair) = .ok smallPairBytes ∧
      smallPairKey.NativeForm smallPairBytes ∧
      Der.readIntegerPair? ⟨2, 65535⟩ smallPairBytes = some (128, 65537) := by
  obtain ⟨hvalue, -, hforms⟩ := web_keys_decode_natively smallPairBytes
  have hform : smallPairKey.NativeForm smallPairBytes :=
    keyBytes_eq_ok_iff.1 (toOption_eq_some_iff.1 (by decide +kernel))
  refine ⟨(hvalue _).2 ⟨smallPairKey, .value (toOption_eq_some_iff.1 (by decide +kernel)), hform⟩, hform, ?_⟩
  obtain ⟨n, e, ⟨_, hn, hread⟩, ⟨_, he, hread'⟩, -, hpair⟩ := (hforms _ hform).2.2 rfl
  obtain rfl := Option.some.inj hn
  obtain rfl := Option.some.inj he
  have hn : Base64.decodeIn Alphabet.base64Url "gA".toList = .ok [0x80] :=
    toOption_eq_some_iff.1 (by decide +kernel)
  have he : Base64.decodeIn Alphabet.base64Url "AQAB".toList = .ok [0x01, 0x00, 0x01] :=
    toOption_eq_some_iff.1 (by decide +kernel)
  obtain rfl := Except.ok.inj (hread.symm.trans hn)
  obtain rfl := Except.ok.inj (hread'.symm.trans he)
  exact hpair ⟨2, 65535⟩ (.inl (by decide +kernel))

def shortText : String :=
  "\x7b\"kty\":\"OKP\",\"crv\":\"Ed25519\",\"x\":\"AQ\"\x7d"

def shortKey : Jwk := ⟨"OKP", some "Ed25519", some "AQ", none, none, none⟩

/-- An Ed25519 key of one byte is decoded like any other. -/
theorem shortKey_decodes :
    (Carries (.text shortText) shortKey ∧ Encoding.jwk.decodeValue (.text shortText) = .ok [0x01] ∧
      Encoding.jwk.decodeText shortText = .ok [0x01]) ∧
    ¬ ∀ value key b, Carries value key → key.kty = "OKP" → key.crv = some "Ed25519" →
      Encoding.jwk.decodeValue value = .ok b → b.length = 32 := by
  have hcarries : Carries (.text shortText) shortKey :=
    .text (toOption_eq_some_iff.1 (by decide +kernel))
  have hdecode : Encoding.jwk.decodeValue (.text shortText) = .ok [0x01] :=
    toOption_eq_some_iff.1 (by decide +kernel)
  refine ⟨⟨hcarries, hdecode, toOption_eq_some_iff.1 (by decide +kernel)⟩, fun hall => ?_⟩
  exact absurd (hall _ _ _ hcarries rfl rfl hdecode) (by decide)

end Jwk

end DidAdmission
