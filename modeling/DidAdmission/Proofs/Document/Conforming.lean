-- SUMMARY: Key ids of an identifier and a fragment: read as written, anchored in the identifier alone.
import DidAdmission.Document
import DidAdmission.Proofs.Identifier.Grammar
import DidAdmission.Proofs.Uri.Kept

/-!
# Conforming key ids

The id of a document is read as an identifier and the id of a key as a URI. What the grammar of identifiers
admits is plain for URIs, so an identifier with a hash and an unreserved fragment is a URI that is written
as it was read, and without the fragment it is the identifier again.
-/

namespace DidAdmission

namespace Identifier.Form

variable {input method network uuid : String}

theorem plain_method (h : Form input method network uuid) :
    ∀ c ∈ method.toList, Uri.isPlain c = true := by
  intro c hc
  have hkinds : (c.isUpper || c.isLower || c.isDigit) = true := by
    rcases h.method.2 c hc with hlower | hdigit
    · simp [hlower]
    · simp [hdigit]
  exact Uri.isPlain_of_isAlphanum hkinds

theorem plain_network (h : Form input method network uuid) :
    ∀ c ∈ network.toList, Uri.isPlain c = true := by
  intro c hc
  have hmarks : ['-', '_', '.'].all Uri.isPlain = true := by decide
  rcases h.network.2 c hc with halphanum | hmark
  · exact Uri.isPlain_of_isAlphanum halphanum
  · exact List.all_eq_true.1 hmarks c hmark

theorem plain_uuid (h : Form input method network uuid) :
    ∀ c ∈ uuid.toList, Uri.isPlain c = true := by
  intro c hc
  rcases h.uuid.mem hc with rfl | halphanum
  · decide
  · exact Uri.isPlain_of_isAlphanum halphanum

/-- After its scheme an identifier is a path that is kept as written. -/
theorem exists_place (h : Form input method network uuid) :
    ∃ place : String, input = "did:" ++ place ∧ ∀ c ∈ place.toList, Uri.isPlain c = true := by
  refine ⟨method ++ (":" ++ (network ++ (":" ++ uuid))), ?_, ?_⟩
  · rw [h.text]
    simp only [String.append_assoc]
  · have hcolon : ∀ c ∈ ":".toList, Uri.isPlain c = true := by
      simp [Uri.isPlain]
    simp only [String.toList_append, List.forall_mem_append]
    exact ⟨h.plain_method, hcolon, h.plain_network, hcolon, h.plain_uuid⟩

end Identifier.Form

/-- The parts of a key id that conforms: an identifier under some policy and an unreserved fragment that is
not empty. -/
structure ConformingKeyId (documentId fragment : String) : Prop where
  identifier : ∃ policy id, Identifier.parse policy documentId = .ok id
  nonempty : fragment ≠ ""
  unreserved : ∀ c ∈ fragment.toList, Uri.isUnreserved c = true

namespace ConformingKeyId

variable {documentId fragment : String}

/-- A key id that conforms is read as a URI of its path and its fragment. -/
theorem exists_uri (h : ConformingKeyId documentId fragment) :
    ∃ place : String, documentId = "did:" ++ place ∧ (∀ c ∈ place.toList, Uri.isPlain c = true) ∧
      Uri.parse? (documentId ++ "#" ++ fragment) = some (.ofDid place fragment) := by
  obtain ⟨policy, hid⟩ := h.identifier
  obtain ⟨method, network, uuid, hform, -⟩ := Identifier.exists_parse_iff.1 hid
  obtain ⟨place, rfl, hplace⟩ := hform.exists_place
  have hfragment : ∀ c ∈ fragment.toList, Uri.isPlain c = true := fun c hc =>
    Uri.isPlain_of_isUnreserved (h.unreserved c hc)
  exact ⟨place, rfl, hplace, Uri.parse?_did hplace hfragment⟩

end ConformingKeyId

/-- A key id that conforms is accepted and written as it was read, is owned by the identifier and anchored
in it, and is the same URI as another one just if the identifiers and the fragments are. -/
theorem conforming_key_ids (d f d' f' : String) (h : ConformingKeyId d f)
    (h' : ConformingKeyId d' f') :
    ∃ u u', Uri.parse? (d ++ "#" ++ f) = some u ∧ Uri.parse? (d' ++ "#" ++ f') = some u' ∧
      (∀ entry field, Json.Object.string entry field = .ok (d ++ "#" ++ f) →
        entry.uri field = .ok u) ∧
      u.text = d ++ "#" ++ f ∧
      (∀ key : PublicKey, key.id = u → key.owner.text = d ∧ key.isAnchoredIn d = true) ∧
      (u.same u' = true ↔ d = d' ∧ f = f') := by
  obtain ⟨place, rfl, hplace, hparse⟩ := h.exists_uri
  obtain ⟨place', rfl, -, hparse'⟩ := h'.exists_uri
  refine ⟨_, _, hparse, hparse', fun entry field hstring => ?_, Uri.text_ofDid place f, ?_, ?_⟩
  · simp [Json.Object.uri, hstring, hparse]
  · rintro key hkey
    have howner : key.owner.text = "did:" ++ place := by
      rw [PublicKey.owner, hkey, Uri.text_withoutFragment_ofDid hplace]
    refine ⟨howner, ?_⟩
    simp [PublicKey.isAnchoredIn, howner, hkey, Uri.ofDid, h.nonempty]
  · rw [Uri.same, beq_iff_eq, Uri.text_ofDid, Uri.text_ofDid]
    constructor
    · intro htext
      -- One text is read as one URI, which holds the path and the fragment.
      rw [htext] at hparse
      obtain ⟨rfl, rfl⟩ := Uri.ofDid_inj (Option.some.inj (hparse.symm.trans hparse'))
      exact ⟨rfl, rfl⟩
    · rintro ⟨hid, rfl⟩
      rw [hid]

/-- Two keys of one identifier whose network is not listed. -/
theorem twoKeys_conforming :
    ∃ u u', Uri.parse? "did:op:edge_9.b:6A7f0c2E-1b3D-4c5e-8F90-aBcDeF012345#keys-1" = some u ∧
      Uri.parse? "did:op:edge_9.b:6A7f0c2E-1b3D-4c5e-8F90-aBcDeF012345#~_.2" = some u' ∧
      Json.Object.uri
        [("id", .text "did:op:edge_9.b:6A7f0c2E-1b3D-4c5e-8F90-aBcDeF012345#keys-1")] "id" = .ok u ∧
      u.text = "did:op:edge_9.b:6A7f0c2E-1b3D-4c5e-8F90-aBcDeF012345#keys-1" ∧
      (PublicKey.mk u .ed25519 u .hex []).owner.text =
        "did:op:edge_9.b:6A7f0c2E-1b3D-4c5e-8F90-aBcDeF012345" ∧
      (PublicKey.mk u .ed25519 u .hex []).isAnchoredIn
        "did:op:edge_9.b:6A7f0c2E-1b3D-4c5e-8F90-aBcDeF012345" = true ∧
      u.same u' = false := by
  have hid : ∃ policy id,
      Identifier.parse policy "did:op:edge_9.b:6A7f0c2E-1b3D-4c5e-8F90-aBcDeF012345" = .ok id :=
    ⟨.lenient, _, by rfl⟩
  obtain ⟨u, u', hu, hu', hentry, htext, hkey, hsame⟩ := conforming_key_ids
    "did:op:edge_9.b:6A7f0c2E-1b3D-4c5e-8F90-aBcDeF012345" "keys-1"
    "did:op:edge_9.b:6A7f0c2E-1b3D-4c5e-8F90-aBcDeF012345" "~_.2"
    ⟨hid, by decide, List.all_eq_true.1 (by decide)⟩
    ⟨hid, by decide, List.all_eq_true.1 (by decide)⟩
  obtain ⟨howner, hanchored⟩ := hkey (PublicKey.mk u .ed25519 u .hex []) rfl
  refine ⟨u, u', hu, hu', hentry _ "id" rfl, htext, howner, hanchored, ?_⟩
  rw [Bool.eq_false_iff, Ne, hsame]
  decide

end DidAdmission
