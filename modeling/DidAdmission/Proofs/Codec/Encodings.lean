-- SUMMARY: Material is read as the bytes it was written for, from whatever field carries it alone.
import DidAdmission.Proofs.Codec.Base64
import DidAdmission.Proofs.Codec.Radix
import DidAdmission.Proofs.Reading.Entries

/-!
# Encodings

The text of bytes is read back in every encoding that has one. An entry has material exactly where one of
the fields carries a value and no other one does, so it does not matter which of them it is.
-/

namespace DidAdmission

/-! ## Texts -/

namespace Encoding

variable {encoding : Encoding} {b : Bytes} {text : String}

theorem decodeText_encode (h : encoding.encode? b = some text) : encoding.decodeText text = .ok b := by
  cases encoding with
  | base58 =>
    obtain rfl := Option.some.inj h
    rw [decodeText, String.toList_ofList, Base58.decode_encode, mapError_ok]
  | base64 =>
    obtain rfl := Option.some.inj h
    rw [decodeText, String.toList_ofList, Base64.decode_encode, mapError_ok]
  | hex =>
    obtain rfl := Option.some.inj h
    rw [decodeText, String.toList_ofList, Hex.decode_encode, mapError_ok]
  | multibase =>
    obtain rfl := Option.some.inj h
    rw [decodeText, String.toList_ofList, Multibase.decode_encode, mapError_ok]
  | pem => cases h
  | jwk => cases h

theorem decodeValue_encode (h : encoding.encode? b = some text) :
    encoding.decodeValue (.text text) = .ok b := by
  have hread := decodeText_encode h
  cases encoding with
  | jwk => cases h
  | base58 => exact hread
  | base64 => exact hread
  | hex => exact hread
  | multibase => exact hread
  | pem => exact hread

end Encoding

/-! ## Entries -/

namespace Material

variable {entry : Json.Object} {fields : List MaterialField} {material : Material}

theorem inField?_eq_some_iff {field : MaterialField} :
    inField? entry field = some material ↔
      material.field = field ∧ entry.get? field.name = some material.value ∧
        material.value.isNull = false := by
  unfold inField?
  cases entry.get? field.name with
  | none => simp
  | some value =>
    simp only [Option.ite_none_left_eq_some, Option.some.injEq]
    constructor
    · rintro ⟨hnull, rfl⟩
      exact ⟨rfl, rfl, Bool.not_eq_true _ ▸ hnull⟩
    · rintro ⟨rfl, rfl, hnull⟩
      exact ⟨by simp [hnull], rfl⟩

/-- An entry has material where one field carries it and no other field carries any. -/
theorem resolve_eq_ok_iff (hdistinct : fields.Nodup) :
    resolve entry fields = .ok material ↔
      material.field ∈ fields ∧ inField? entry material.field = some material ∧
        ∀ field ∈ fields, field ≠ material.field → inField? entry field = none := by
  have hcarried : inField? entry material.field = some material ↔
      entry.given? material.field.name = some material.value := by
    rw [inField?_eq, Option.map_eq_some_iff]
    refine ⟨?_, fun h => ⟨_, h, rfl⟩⟩
    rintro ⟨value, hvalue, hsame⟩
    exact hvalue.trans (congrArg (some ·.value) hsame)
  rw [resolve_eq_ok_iff_held, held, filter_eq_singleton_iff hdistinct, hcarried]
  simp only [inField?_eq, Option.map_eq_none_iff, Option.isSome_eq_false_iff, Option.isNone_iff_eq_none]
  constructor
  · rintro ⟨⟨hmem, -, hothers⟩, hvalue⟩
    exact ⟨hmem, hvalue, hothers⟩
  · rintro ⟨hmem, hvalue, hothers⟩
    exact ⟨⟨hmem, by rw [hvalue]; rfl, hothers⟩, hvalue⟩

end Material

/-- Material that stands in one field alone is the material of the entry. -/
theorem Material.resolve_alone {entry : Json.Object} {fields : List MaterialField}
    {field : MaterialField} {value : Json} (hdistinct : fields.Nodup) (hfield : field ∈ fields)
    (hput : entry.get? field.name = some value) (hvalue : value.isNull = false)
    (hothers : ∀ other ∈ fields, other ≠ field → inField? entry other = none) :
    resolve entry fields = .ok ⟨field, value⟩ :=
  (resolve_eq_ok_iff hdistinct).2 ⟨hfield, inField?_eq_some_iff.2 ⟨rfl, hput, hvalue⟩, hothers⟩

theorem Material.decode_encode {field : MaterialField} {b : Bytes} {text : String}
    (htext : field.encoding.encode? b = some text) : decode ⟨field, .text text⟩ = .ok b := by
  rw [decode, Encoding.decodeValue_encode htext, mapError_ok]

/-- The one field that carries the text of bytes is read as these bytes. -/
theorem Json.Object.material_encode {entry : Json.Object} {fields : List MaterialField}
    {field : MaterialField} {b : Bytes} {text : String} (hdistinct : fields.Nodup)
    (hfield : field ∈ fields) (htext : field.encoding.encode? b = some text)
    (hput : entry.get? field.name = some (.text text))
    (hothers : ∀ other ∈ fields, other ≠ field → Material.inField? entry other = none) :
    entry.material fields = .ok (field.encoding, b) := by
  rw [material, Material.resolve_alone hdistinct hfield hput rfl hothers, mapError_ok, ok_bind,
    Material.decode_encode htext]
  rfl

/-! ## Reading back what was written -/

/-- The encodings whose text holds nothing but the bytes. -/
def Encoding.reversible : List Encoding := [.base58, .base64, .hex, .multibase]

theorem Encoding.exists_encode {encoding : Encoding} (h : encoding ∈ reversible) (b : Bytes) :
    ∃ text, encoding.encode? b = some text := by
  cases encoding with
  | base58 => exact ⟨_, rfl⟩
  | base64 => exact ⟨_, rfl⟩
  | hex => exact ⟨_, rfl⟩
  | multibase => exact ⟨_, rfl⟩
  | pem => exact absurd h (by decide)
  | jwk => exact absurd h (by decide)

/-- The fields of a key and those of a signature are listed once each. -/
theorem Material.nodup_fields {fields : List MaterialField}
    (h : fields ∈ [keyFields, signatureFields]) : fields.Nodup := by
  rcases List.mem_pair.1 h with rfl | rfl <;> decide

theorem Material.inField?_eq_none {entry : Json.Object} {field : MaterialField}
    (h : ∀ value, entry.get? field.name = some value → value = .null) :
    inField? entry field = none := by
  cases hfound : inField? entry field with
  | none => rfl
  | some material =>
    obtain ⟨-, hget, hvalue⟩ := inField?_eq_some_iff.1 hfound
    rw [h _ hget] at hvalue
    cases hvalue

/-- Every byte string has a text in each of the encodings, the text is read as the byte string, and so is
an entry whose field for the encoding carries the text while its other fields are missing or null. -/
theorem Encoding.reads_back {encoding : Encoding} (h : encoding ∈ reversible) (b : Bytes) :
    ∃ text, encoding.encode? b = some text ∧ encoding.decodeText text = .ok b ∧
      ∀ fields ∈ [Material.keyFields, Material.signatureFields], ∀ field ∈ fields,
        field.encoding = encoding → ∀ entry : Json.Object,
          entry.get? field.name = some (.text text) →
          (∀ other ∈ fields, other ≠ field →
            ∀ value, entry.get? other.name = some value → value = .null) →
          Material.resolve entry fields = .ok ⟨field, .text text⟩ ∧
            Material.decode ⟨field, .text text⟩ = .ok b ∧
            entry.material fields = .ok (encoding, b) := by
  obtain ⟨text, htext⟩ := exists_encode h b
  refine ⟨text, htext, decodeText_encode htext, ?_⟩
  rintro fields hfields field hfield rfl entry hput hothers
  have hdistinct := Material.nodup_fields hfields
  have hnone : ∀ other ∈ fields, other ≠ field → Material.inField? entry other = none :=
    fun other hother hne => Material.inField?_eq_none (hothers other hother hne)
  exact ⟨Material.resolve_alone hdistinct hfield hput rfl hnone, Material.decode_encode htext,
    Json.Object.material_encode hdistinct hfield htext hput hnone⟩

/-- A key whose bytes start with zeros, under the multibase field and beside a field set to null. -/
def zeroLedEntry : Json.Object :=
  [("publicKeyBase58", .null), ("publicKeyMultibase", .text "z115Q")]

theorem zeroLedEntry_reads_back :
    Encoding.multibase.encode? [0, 0, 255] = some "z115Q" ∧
      Encoding.multibase.decodeText "z115Q" = .ok [0, 0, 255] ∧
      zeroLedEntry.get? "publicKeyMultibase" = some (.text "z115Q") ∧
      zeroLedEntry.material Material.keyFields = .ok (.multibase, [0, 0, 255]) := by
  have hwritten : Encoding.multibase.encode? [0, 0, 255] = some "z115Q" := by decide +kernel
  obtain ⟨text, htext, hread, hentry⟩ :=
    Encoding.reads_back (show .multibase ∈ Encoding.reversible by decide) [0, 0, 255]
  obtain rfl : "z115Q" = text := Option.some.inj (hwritten.symm.trans htext)
  refine ⟨hwritten, hread, rfl, ?_⟩
  have hothers : ∀ other ∈ Material.keyFields, other ≠ ⟨.multibase, "publicKeyMultibase"⟩ →
      ∀ value, zeroLedEntry.get? other.name = some value → value = .null := by
    intro other hother hne value hvalue
    simp only [Material.keyFields, List.mem_cons, List.not_mem_nil, or_false] at hother
    rcases hother with rfl | rfl | rfl | rfl | rfl | rfl
    · exact (Option.some.inj hvalue).symm
    · cases hvalue
    · cases hvalue
    · cases hvalue
    · cases hvalue
    · exact absurd rfl hne
  exact (hentry Material.keyFields (by simp) ⟨.multibase, "publicKeyMultibase"⟩
    (by simp [Material.keyFields]) rfl zeroLedEntry rfl hothers).2.2

end DidAdmission
