-- SUMMARY: Which signature belongs to which key, where no two signatures have one target.
import DidAdmission.Proofs.Admission.KeyIds
import Mathlib.Data.List.Nodup
import Mathlib.Data.List.Perm.Subperm

/-!
# Pairing

The checks look a signature up for each key, and never a key for a signature. Since no two signatures
have one target, a key of the document and a key of its precursor under one id are looked up with the
same answer, so that what one signature says of both holds of each. Where there also are as many
signatures as keys, none is left over.
-/

namespace DidAdmission

section

variable {message : Bytes} {signatures : List Signature}

/-- Only one signature has a target. -/
theorem Signature.eq_of_target (htargets : (signatures.map (·.target.text)).Nodup)
    {s s' : Signature} (hs : s ∈ signatures) (hs' : s' ∈ signatures)
    (h : s.target.text = s'.target.text) : s = s' :=
  List.inj_on_of_nodup_map htargets hs hs' h

/-- Two keys under one id that have both signed have signed with one signature. -/
theorem PublicKey.HasSigned.shared {key owner : PublicKey}
    (htargets : (signatures.map (·.target.text)).Nodup) (hsame : key.id.text = owner.id.text)
    (hkey : key.HasSigned message signatures) (howner : owner.HasSigned message signatures) :
    ∃ s ∈ signatures, s.Vouches message key ∧ s.Vouches message owner := by
  obtain ⟨s, hs, hvouches⟩ := hkey
  obtain ⟨s', hs', hvouches'⟩ := howner
  have htarget : s.target.text = s'.target.text := by
    rw [hvouches.target, hvouches'.target, hsame]
  obtain rfl := Signature.eq_of_target htargets hs hs' htarget
  exact ⟨s, hs, hvouches, hvouches'⟩

/-- As many signatures as keys, all of which have signed, have the ids of the keys as targets. -/
theorem targets_perm_keyIds {keys : List PublicKey} (hkeyIds : (keys.map (·.id.text)).Nodup)
    (hcount : signatures.length = keys.length)
    (hsigned : ∀ key ∈ keys, key.HasSigned message signatures) :
    (keys.map (·.id.text)).Perm (signatures.map (·.target.text)) := by
  have hsubset : keys.map (·.id.text) ⊆ signatures.map (·.target.text) := by
    intro id hid
    obtain ⟨key, hkey, rfl⟩ := List.mem_map.1 hid
    obtain ⟨s, hs, hvouches⟩ := hsigned key hkey
    exact List.mem_map.2 ⟨s, hs, hvouches.target⟩
  apply (List.subperm_of_subset hkeyIds hsubset).perm_of_length_le
  simp [hcount]

end

namespace Envelope

/-! ## A key id in a document and its precursor -/

/-- Where all keys of the precursor must sign, a key id that stays keeps its suite, and the signature
that targets it verifies under the old key and under the new one. A key is never replaced by one of
another suite under the same id, whatever the signatures are. -/
theorem change_keeps_bindings (profile : Profile) (e : Envelope) (precursor : Document)
    (hall : e.action = .ok .update ∨ profile.deletion = .allKeys) :
    ((e.modification profile precursor).outcome = .ok () →
      ∃ p owners, e.Declares profile p ∧ precursor.publicKeys = .ok owners ∧
        ∀ key ∈ p.keys, ∀ owner ∈ owners, key.id.text = owner.id.text →
          key.suite = owner.suite ∧
          ∃ s ∈ p.signatures, s.Vouches e.document.bytes key ∧ s.Vouches e.document.bytes owner) ∧
    ∀ keys owners key owner, e.document.publicKeys = .ok keys → precursor.publicKeys = .ok owners →
      key ∈ keys → owner ∈ owners → key.id.text = owner.id.text → key.suite ≠ owner.suite →
      (e.modification profile precursor).outcome ≠ .ok () := by
  have hkeeps : (e.modification profile precursor).outcome = .ok () →
      ∃ p owners, e.Declares profile p ∧ precursor.publicKeys = .ok owners ∧
        ∀ key ∈ p.keys, ∀ owner ∈ owners, key.id.text = owner.id.text →
          key.suite = owner.suite ∧
          ∃ s ∈ p.signatures, s.Vouches e.document.bytes key ∧
            s.Vouches e.document.bytes owner := by
    intro h
    obtain ⟨action, p, owners, ⟨haction, -⟩, hp, hadmissible, howners, hauthorizes⟩ :=
      modification_authorized h
    -- A deletion asks for no less than an update here.
    have hsigned : ∀ owner ∈ owners, owner.HasSigned e.document.bytes p.signatures := by
      rcases hall with hupdate | hpolicy
      · obtain rfl : Action.update = action := Except.ok.inj (hupdate.symm.trans haction)
        rwa [Authorizes, if_neg (by simp)] at hauthorizes
      · rwa [Authorizes, if_neg (by simp [hpolicy])] at hauthorizes
    refine ⟨p, owners, hp, howners, fun key hkey owner howner hsame => ?_⟩
    obtain ⟨s, hs, hnew, hold⟩ := PublicKey.HasSigned.shared hadmissible.targets hsame
      (hadmissible.signed key hkey) (hsigned owner howner)
    exact ⟨hnew.suite.symm.trans hold.suite, s, hs, hnew, hold⟩
  refine ⟨hkeeps, fun keys owners key owner hkeys howners hkey howner hsame hsuites h => ?_⟩
  obtain ⟨p, owners', hp, howners', hbindings⟩ := hkeeps h
  obtain rfl : keys = p.keys := Except.ok.inj (hkeys.symm.trans hp.keys)
  obtain rfl : owners = owners' := Except.ok.inj (howners.symm.trans howners')
  exact hsuites (hbindings key hkey owner howner hsame).1

theorem twins_changed :
    ((twins "update").modification .standard founding.document).outcome = .ok () := by
  have hsucceeds : twinParticulars.Succeeds founding.document :=
    ⟨founding_declares.created, _, _, rfl, founding_declares.updated, nofun⟩
  exact founding_updated (by rfl) (twins_declare "update") (twins_admissible .modification)
    hsucceeds ⟨_, List.mem_cons_self, twinSignature_vouches ""⟩

/-- The document with a key of another suite in place of the founding document's key. -/
def retypedText : String :=
  "\x7b\"@context\":\"x\",\"id\":\"" ++ twinId ""
    ++ "\",\"updated\":\"2024-01-01T00:00:00Z\",\"publicKey\":[\x7b\"id\":\"" ++ twinId "#k"
    ++ "\",\"type\":\"RsaVerificationKey2018\",\"controller\":\"" ++ twinId ""
    ++ "\",\"publicKeyHex\":\"00\"\x7d]\x7d"

def retyped : Document where
  submission.text := retypedText
  submission.object :=
    [("@context", .text "x"), ("id", .text (twinId "")),
     ("publicKey", .array
       [.object
         [("controller", .text (twinId "")), ("id", .text (twinId "#k")),
          ("publicKeyHex", .text "00"), ("type", .text "RsaVerificationKey2018")]]),
     ("updated", .text "2024-01-01T00:00:00Z")]

set_option maxRecDepth 20000 in
theorem parse_retyped : Document.parse retypedText = .ok retyped := by
  have htext : Json.read retypedText = .ok (.object retyped.submission.object) := by
    unfold Json.read retypedText twinId
    simp only [String.toList_append]
    repeat rw [String.toList_ofList]
    rfl
  exact Document.parse_of_read htext

def retypedKey : PublicKey :=
  { twinKey "" with suite := .rsa, encoding := .hex, bytes := [0] }

/-- The first twin keeps the id of the founding document's key, and one signature verifies under both. A
key of another suite under this id is not accepted. -/
theorem twins_keep_binding :
    (((twins "update").modification .standard founding.document).outcome = .ok () ∧
      ∃ key ∈ twinParticulars.keys, ∃ owner ∈ foundingParticulars.keys,
        key.id.text = owner.id.text ∧ key.suite = owner.suite ∧
        ∃ s ∈ twinParticulars.signatures,
          s.Vouches twinDocument.bytes key ∧ s.Vouches twinDocument.bytes owner) ∧
    Document.parse retypedText = .ok retyped ∧ retyped.publicKeys = .ok [retypedKey] ∧
      (modification .standard ⟨twinInstruction "update", retyped⟩ founding.document).outcome ≠
        .ok () := by
  have hupdate (d : Document) : action ⟨twinInstruction "update", d⟩ = .ok .update := by rfl
  have hretyped : retyped.publicKeys = .ok [retypedKey] :=
    toOption_eq_some_iff.1 (by decide +kernel)
  obtain ⟨p, owners, hp, howners, hbindings⟩ :=
    (change_keeps_bindings .standard (twins "update") founding.document (.inl (hupdate _))).1
      twins_changed
  obtain rfl := hp.unique (twins_declare "update")
  obtain rfl := Except.ok.inj (howners.symm.trans founding_declares.keys)
  have hsame : (twinKey "").id.text = (keyAt "a:net:00000000-0000-0000-0000-000000000001").id.text := rfl
  have hbinding := hbindings _ List.mem_cons_self _ List.mem_cons_self hsame
  have hrefused : (modification .standard ⟨twinInstruction "update", retyped⟩
      founding.document).outcome ≠ .ok () :=
    (change_keeps_bindings .standard ⟨twinInstruction "update", retyped⟩ founding.document
      (.inl (hupdate _))).2 _ _ _ _ hretyped founding_declares.keys List.mem_cons_self
      List.mem_cons_self hsame (by decide)
  exact ⟨⟨twins_changed, _, List.mem_cons_self, _, List.mem_cons_self, hsame, hbinding⟩,
    parse_retyped, hretyped, hrefused⟩

/-! ## A creation with no signature left over -/

/-- Where creations count exactly, the signatures of a creation that is accepted and the keys of its
document are in bijection: the targets are the key ids, and every signature targets one key, is of its
suite and verifies under it. -/
theorem exact_creation_pairs_off {profile : Profile} {e : Envelope}
    (hexact : profile.signatureCount = .exactForCreation)
    (h : (e.creation profile).outcome = .ok ()) :
    ∃ p, e.Declares profile p ∧
      (p.signatures.map (·.target.text)).Nodup ∧ (p.keys.map (·.id.text)).Nodup ∧
      (p.signatures.map (·.target.text)).Perm (p.keys.map (·.id.text)) ∧
      ∀ s ∈ p.signatures, ∃ key ∈ p.keys, s.Vouches e.document.bytes key ∧
        ∀ other ∈ p.keys, s.target.text = other.id.text → other = key := by
  obtain ⟨-, signatures, hbase⟩ := outcome_creation_eq_ok_iff.1 h
  obtain ⟨p, hp, hadmissible, rfl⟩ := outcome_checkBase_eq_ok_iff.1 hbase
  have hperm := (targets_perm_keyIds hadmissible.keyIds (hadmissible.exact rfl hexact)
    hadmissible.signed).symm
  refine ⟨p, hp, hadmissible.targets, hadmissible.keyIds, hperm, fun s hs => ?_⟩
  -- The signature found for the key has the same target, so it is the one that was given.
  obtain ⟨key, hkey, hid⟩ := List.mem_map.1 (hperm.mem_iff.1 (List.mem_map_of_mem hs))
  obtain ⟨s', hs', hvouches⟩ := hadmissible.signed key hkey
  obtain rfl : s' = s :=
    Signature.eq_of_target hadmissible.targets hs' hs (hvouches.target.trans hid)
  refine ⟨key, hkey, hvouches, fun other hother htarget => ?_⟩
  exact List.inj_on_of_nodup_map hadmissible.keyIds hother hkey (htarget.symm.trans hid.symm)

/-- The twins are created with one signature each. -/
theorem twins_pair_off :
    Profile.standard.signatureCount = .exactForCreation ∧
    ((twins "create").creation .standard).outcome = .ok () ∧
    ∃ p, (twins "create").Declares .standard p ∧
      (p.signatures.map (·.target.text)).Nodup ∧ (p.keys.map (·.id.text)).Nodup ∧
      (p.signatures.map (·.target.text)).Perm (p.keys.map (·.id.text)) ∧
      ∀ s ∈ p.signatures, ∃ key ∈ p.keys, s.Vouches twinDocument.bytes key ∧
        ∀ other ∈ p.keys, s.target.text = other.id.text → other = key :=
  ⟨rfl, twins_created, exact_creation_pairs_off rfl twins_created⟩

end Envelope

end DidAdmission
