-- SUMMARY: A text that is read as bytes is the one written for them, up to letter case and padding.
import DidAdmission.Proofs.Codec.Encodings

/-!
# Spellings

A text that is read as bytes is the text that is written for them, except that hexadecimal digits may be
in either case and Base64 may have less padding. Nothing else is left open: a leading zero digit is a
leading zero byte, the digits after them have no other spelling, and bits that are left over are zero.
-/

namespace DidAdmission

namespace Encoding

variable {t : String} {b : Bytes}

theorem encode_of_base58 (h : base58.decodeText t = .ok b) : base58.encode? b = some t := by
  rw [encode?, Base58.encode_of_decode (mapError_eq_ok_iff.1 h), String.ofList_toList]

theorem encode_of_hex (h : hex.decodeText t = .ok b) : hex.encode? b = some t.toLower := by
  have hlower : String.ofList (t.toList.map Char.toLower) = t.toLower := by
    rw [← String.toList_map, String.ofList_toList]
    rfl
  rw [encode?, Hex.decode_eq_ok_iff.1 (mapError_eq_ok_iff.1 h), hlower]

theorem encode_of_base64 (h : base64.decodeText t = .ok b) :
    ∃ written, base64.encode? b = some written ∧
      Base64.unpadded written.toList = Base64.unpadded t.toList := by
  refine ⟨_, rfl, ?_⟩
  rw [String.toList_ofList]
  exact Base64.unpadded_encode_of_decode (mapError_eq_ok_iff.1 h)

theorem encode_of_multibase (hcode : t.toList.head? = some 'z')
    (h : multibase.decodeText t = .ok b) : multibase.encode? b = some t := by
  rw [encode?, Multibase.encode_of_decode hcode (mapError_eq_ok_iff.1 h), String.ofList_toList]

/-- A text that is read as bytes is the one written for them: exactly in Base58 and under the multibase
code of Base58, in lower case in hexadecimal, and up to the padding at the end in Base64. Two texts that
are read as the same bytes differ in nothing else. -/
theorem spelled_as_written (t t' : String) (b : Bytes) :
    (base58.decodeText t = .ok b →
      base58.encode? b = some t ∧ (base58.decodeText t' = .ok b → t' = t)) ∧
    (hex.decodeText t = .ok b →
      hex.encode? b = some t.toLower ∧ (hex.decodeText t' = .ok b → t'.toLower = t.toLower)) ∧
    (base64.decodeText t = .ok b →
      (∃ written, base64.encode? b = some written ∧
        Base64.unpadded written.toList = Base64.unpadded t.toList) ∧
      (base64.decodeText t' = .ok b → Base64.unpadded t'.toList = Base64.unpadded t.toList)) ∧
    (t.toList.head? = some 'z' → multibase.decodeText t = .ok b →
      multibase.encode? b = some t ∧
      (t'.toList.head? = some 'z' → multibase.decodeText t' = .ok b → t' = t)) := by
  refine ⟨fun h => ⟨encode_of_base58 h, fun h' => ?_⟩, fun h => ⟨encode_of_hex h, fun h' => ?_⟩,
    fun h => ⟨encode_of_base64 h, fun h' => ?_⟩,
    fun hcode h => ⟨encode_of_multibase hcode h, fun hcode' h' => ?_⟩⟩
  · exact Option.some.inj ((encode_of_base58 h').symm.trans (encode_of_base58 h))
  · exact Option.some.inj ((encode_of_hex h').symm.trans (encode_of_hex h))
  · obtain ⟨written, hwritten, hspelled⟩ := encode_of_base64 h
    obtain ⟨written', hwritten', hspelled'⟩ := encode_of_base64 h'
    obtain rfl := Option.some.inj (hwritten'.symm.trans hwritten)
    rw [← hspelled', hspelled]
  · exact Option.some.inj ((encode_of_multibase hcode' h').symm.trans (encode_of_multibase hcode h))

/-- A leading zero byte in each encoding, with digits in both cases and with the padding left out. -/
theorem zeroLed_spelled :
    (base58.decodeText "15Q" = .ok [0, 255] ∧ base58.encode? [0, 255] = some "15Q") ∧
    (hex.decodeText "00fF" = .ok [0, 255] ∧ hex.decodeText "00Ff" = .ok [0, 255] ∧
      hex.encode? [0, 255] = some "00ff" ∧ "00Ff".toLower = "00fF".toLower) ∧
    (base64.decodeText "AP8" = .ok [0, 255] ∧ base64.decodeText "AP8=" = .ok [0, 255] ∧
      Base64.unpadded "AP8=".toList = Base64.unpadded "AP8".toList) ∧
    (multibase.decodeText "z15Q" = .ok [0, 255] ∧ multibase.encode? [0, 255] = some "z15Q") := by
  have hbase58 : base58.decodeText "15Q" = .ok [0, 255] :=
    toOption_eq_some_iff.1 (by decide +kernel)
  have hlower : hex.decodeText "00fF" = .ok [0, 255] := toOption_eq_some_iff.1 (by decide +kernel)
  have hupper : hex.decodeText "00Ff" = .ok [0, 255] := toOption_eq_some_iff.1 (by decide +kernel)
  have hbare : base64.decodeText "AP8" = .ok [0, 255] := toOption_eq_some_iff.1 (by decide +kernel)
  have hfull : base64.decodeText "AP8=" = .ok [0, 255] := toOption_eq_some_iff.1 (by decide +kernel)
  have hmultibase : multibase.decodeText "z15Q" = .ok [0, 255] :=
    toOption_eq_some_iff.1 (by decide +kernel)
  obtain ⟨hwritten58, -⟩ := (spelled_as_written "15Q" "15Q" [0, 255]).1 hbase58
  obtain ⟨hwrittenHex, hcase⟩ := (spelled_as_written "00fF" "00Ff" [0, 255]).2.1 hlower
  have hlowered : "00fF".toLower = "00ff" := by decide +kernel
  rw [hlowered] at hwrittenHex
  obtain ⟨-, hpadding⟩ := (spelled_as_written "AP8" "AP8=" [0, 255]).2.2.1 hbare
  obtain ⟨hwrittenMulti, -⟩ :=
    (spelled_as_written "z15Q" "z15Q" [0, 255]).2.2.2 (by decide +kernel) hmultibase
  exact ⟨⟨hbase58, hwritten58⟩, ⟨hlower, hupper, hwrittenHex, hcase hupper⟩,
    ⟨hbare, hfull, hpadding hfull⟩, hmultibase, hwrittenMulti⟩

end Encoding

end DidAdmission
