-- SUMMARY: The key ids of an admitted document: its id, spaces, a hash and a fragment.
import DidAdmission.Proofs.Admission.Acceptance
import DidAdmission.Proofs.Document.Anchor

/-!
# Key ids

The id of a key in an admitted document is the document's id, a hash and a fragment, except that
spaces may stand before the hash: a path kept as text loses them together with the fragment, so they
do not show when what is left is compared with the document's id. The ids of two keys may then differ
in those spaces alone.
-/

namespace DidAdmission

/-! ## The spaces before a fragment -/

/-- How many spaces stand before the fragment, or at the end where there is none. -/
def Uri.gap (u : Uri) : Nat :=
  (u.stem.toList.reverse.takeWhile (· == ' ')).length

/-- Before the fragment, the id of an anchored key is the document's id and the gap. -/
theorem PublicKey.stem_of_isAnchoredIn {key : PublicKey} {documentId : String}
    (hplain : ' ' ∉ documentId.toList) (h : key.isAnchoredIn documentId = true) :
    key.id.stem = documentId ++ String.ofList (List.replicate key.id.gap ' ') := by
  simp only [isAnchoredIn, Bool.and_eq_true, beq_iff_eq] at h
  have howner : key.id.withoutFragment.text = documentId := h.2
  obtain ⟨spaces, hspaces, hstem⟩ := key.id.toList_stem_eq
  rw [howner, List.eq_replicate_of_mem hspaces] at hstem
  have hstop : documentId.toList.reverse.takeWhile (· == ' ') = [] := by
    cases hreverse : documentId.toList.reverse with
    | nil => rfl
    | cons c rest =>
      have hc : c ∈ documentId.toList := by
        rw [← List.mem_reverse, hreverse]
        exact List.mem_cons_self
      exact List.takeWhile_cons_of_neg (by simpa using ne_of_mem_of_not_mem hc hplain)
  have hgap : key.id.gap = spaces.length := by
    rw [Uri.gap, hstem, List.reverse_append, List.reverse_replicate,
      List.takeWhile_append_of_pos (by simp), hstop, List.append_nil, List.length_replicate]
  apply String.toList_inj.1
  rw [hstem, hgap, String.toList_append, String.toList_ofList]

/-- The id of a document holds no space. -/
theorem Document.space_notMem_id {policy : NetworkPolicy} {d : Document} {id : Identifier}
    (h : d.id policy = .ok id) : ' ' ∉ id.text.toList :=
  fun hspace => (Identifier.plain_of_parse (parse_of_id h) ' ' hspace).1 rfl

/-- The gaps and the fragments of anchored keys tell their ids apart. -/
theorem nodup_gap_fragment {documentId : String} {keys : List PublicKey}
    (hplain : ' ' ∉ documentId.toList)
    (hanchored : ∀ key ∈ keys, key.isAnchoredIn documentId = true)
    (hkeyIds : (keys.map (·.id.text)).Nodup) :
    (keys.map fun key => (key.id.gap, key.id.fragment)).Nodup := by
  rw [List.Nodup, List.pairwise_map] at hkeyIds ⊢
  refine hkeyIds.imp_of_mem fun {key key'} hkey hkey' hne hsame => hne ?_
  obtain ⟨hgap, hfragment⟩ := Prod.mk.inj hsame
  rw [Uri.text, Uri.text, PublicKey.stem_of_isAnchoredIn hplain (hanchored key hkey),
    PublicKey.stem_of_isAnchoredIn hplain (hanchored key' hkey'), hgap, hfragment]

namespace Envelope

/-- Each key id of an envelope that is accepted is the document's id, the gap, a hash and a fragment
that is not empty, and no two keys have the same gap and the same fragment. -/
theorem accepted_key_ids (profile : Profile) (e : Envelope)
    (h : (e.creation profile).outcome = .ok () ∨
      ∃ precursor, (e.modification profile precursor).outcome = .ok ()) :
    ∃ p, e.Declares profile p ∧
      (∀ key ∈ p.keys, ∃ fragment, fragment ≠ "" ∧ key.id.fragment = some fragment ∧
        key.id.text =
          p.id.text ++ String.ofList (List.replicate key.id.gap ' ') ++ "#" ++ fragment) ∧
      (p.keys.map fun key => (key.id.gap, key.id.fragment)).Nodup := by
  -- The keys are checked alike at either stage, so it is not told apart any further.
  obtain ⟨stage, signatures, hbase⟩ : ∃ stage signatures,
      (e.checkBase profile stage).outcome = .ok signatures := by
    rcases h with h | ⟨precursor, h⟩
    · obtain ⟨-, signatures, hbase⟩ := outcome_creation_eq_ok_iff.1 h
      exact ⟨.creation, signatures, hbase⟩
    · obtain ⟨-, signatures, -, hbase, -⟩ := outcome_modification_eq_ok_iff.1 h
      exact ⟨.modification, signatures, hbase⟩
  obtain ⟨p, hp, hadmissible, -⟩ := outcome_checkBase_eq_ok_iff.1 hbase
  have hplain := Document.space_notMem_id hp.id
  refine ⟨p, hp, fun key hkey => ?_,
    nodup_gap_fragment hplain hadmissible.anchored hadmissible.keyIds⟩
  have hanchored := hadmissible.anchored key hkey
  have hstem := PublicKey.stem_of_isAnchoredIn hplain hanchored
  simp only [PublicKey.isAnchoredIn, Bool.and_eq_true, Option.any_eq_true, bne_iff_ne] at hanchored
  obtain ⟨⟨fragment, hfragment, hne⟩, -⟩ := hanchored
  refine ⟨fragment, hne, hfragment, ?_⟩
  rw [Uri.text, hstem, hfragment, Uri.marked]
  exact String.append_assoc.symm

/-! ## Two keys with one fragment

The ids of the two keys differ in a space before the hash. They are one key, which has signed for both
ids; the first id is also that of the founding document's key. -/

/-- The id of the document, or of a key of it. -/
def twinId (fragment : String) : String :=
  "did:a:net:00000000-0000-0000-0000-000000000001" ++ fragment

def twinKeyText (fragment : String) : String :=
  "\x7b\"id\":\"" ++ twinId fragment
    ++ "\",\"type\":\"Ed25519VerificationKey2018\",\"controller\":\"" ++ twinId ""
    ++ "\",\"publicKeyBase64\":\"iojj3XQJ8ZX9UtstPLpdcspnCb8dlBIb83SIAbQPb1w=\"\x7d"

def twinText : String :=
  "\x7b\"@context\":\"x\",\"id\":\"" ++ twinId ""
    ++ "\",\"updated\":\"2024-01-01T00:00:00Z\",\"publicKey\":["
    ++ twinKeyText "#k" ++ "," ++ twinKeyText " #k" ++ "]\x7d"

/-- The key's signature over the document. -/
def twinMaterial : String :=
  "RIcdzATCD0xpOdoADHFy/odwVAAMd/bC8NF6INQ/UFFHQfRD4PUgQNSyY6J+F62BHW+aPYdB2rv6siibN8WJAA=="

def twinOrder (action : String) : String :=
  orderText action <|
    signatureText (twinId "") twinMaterial ++ "," ++ signatureText (twinId " ") twinMaterial

def twinDocument : Document where
  submission.text := twinText
  submission.object :=
    [("@context", .text "x"), ("id", .text (twinId "")),
     ("publicKey", .array
       [keyEntry (twinId "#k") (twinId ""), keyEntry (twinId " #k") (twinId "")]),
     ("updated", .text "2024-01-01T00:00:00Z")]

def twinInstruction (action : String) : Instruction where
  submission.text := twinOrder action
  submission.object :=
    [("action", .text action),
     ("signatures", .array
       [signatureEntry (twinId "#k") twinMaterial, signatureEntry (twinId " #k") twinMaterial])]

/-- The document, created or changed. -/
def twins (action : String) : Envelope :=
  ⟨twinInstruction action, twinDocument⟩

set_option maxRecDepth 20000 in
theorem parse_twinText : Document.parse twinText = .ok twinDocument := by
  have htext : Json.read twinText = .ok (.object twinDocument.submission.object) := by
    unfold Json.read twinText twinKeyText twinId
    simp only [String.toList_append]
    repeat rw [String.toList_ofList]
    rfl
  exact Document.parse_of_read htext

set_option maxRecDepth 20000 in
theorem parse_twinOrder {action : String} (h : action = "create" ∨ action = "update") :
    Instruction.parse (twinOrder action) = .ok (twinInstruction action) := by
  have horder : Json.read (twinOrder action) =
      .ok (.object (twinInstruction action).submission.object) := by
    unfold Json.read twinOrder orderText signatureText twinId twinMaterial
    rcases h with rfl | rfl
    all_goals
      simp only [String.toList_append]
      repeat rw [String.toList_ofList]
      rfl
  exact Instruction.parse_of_read horder

/-- The key under the document's id with spaces after it. -/
def twinKey (spaces : String) : PublicKey :=
  { keyAt "a:net:00000000-0000-0000-0000-000000000001" with
    id := (keyAt ("a:net:00000000-0000-0000-0000-000000000001" ++ spaces)).id }

def twinBytes : Bytes :=
  [68, 135, 29, 204, 4, 194, 15, 76, 105, 57, 218, 0, 12, 113, 114, 254, 135, 112, 84, 0, 12, 119,
   246, 194, 240, 209, 122, 32, 212, 63, 80, 81, 71, 65, 244, 67, 224, 245, 32, 64, 212, 178, 99,
   162, 126, 23, 173, 129, 29, 111, 154, 61, 135, 65, 218, 187, 250, 178, 40, 155, 55, 197, 137, 0]

/-- The signature that targets the key with these spaces in its id. -/
def twinSignature (spaces : String) : Signature :=
  signatureAt ("a:net:00000000-0000-0000-0000-000000000001" ++ spaces) twinBytes

def twinParticulars : Particulars where
  created := none
  updated := some ⟨2024, 1, 1, 0, 0, 0, 0⟩
  signatures := [twinSignature "", twinSignature " "]
  keys := [twinKey "", twinKey " "]
  id := foundingParticulars.id

theorem twins_declare (action : String) : (twins action).Declares .standard twinParticulars where
  context := by rfl
  created := by rfl
  updated := toOption_eq_some_iff.1 (show twinDocument.updated.toOption = _ by decide +kernel)
  signatures := toOption_eq_some_iff.1
    (show (twinInstruction "create").signatures.toOption = _ by decide +kernel)
  keys := toOption_eq_some_iff.1 (show twinDocument.publicKeys.toOption = _ by decide +kernel)
  id := toOption_eq_some_iff.1
    (show (twinDocument.id Profile.standard.networkPolicy).toOption = _ by decide +kernel)

theorem twins_wellFormed (stage : Check.Stage) : twinParticulars.WellFormed .standard stage where
  times := nofun
  targets := by decide +kernel
  keyIds := by decide +kernel
  someKey := List.cons_ne_nil _ _
  enough := by decide
  exact := fun _ _ => rfl
  suites := by decide
  anchored := by decide +kernel

set_option maxRecDepth 20000 in
theorem twinSignature_vouches (spaces : String) :
    (twinSignature spaces).Vouches twinDocument.bytes (twinKey spaces) := by
  have hvalid : Suite.verify .ed25519 twinDocument.bytes (keyAt "").bytes twinBytes = true := by
    unfold Document.bytes Submission.bytes Bytes.ofText twinDocument twinText twinKeyText twinId
    simp only [String.toList_append]
    repeat rw [String.toList_ofList]
    decide +kernel
  exact ⟨rfl, rfl, hvalid⟩

theorem twins_admissible (stage : Check.Stage) :
    twinParticulars.Admissible .standard stage twinDocument.bytes := by
  refine ⟨twins_wellFormed stage, List.forall_mem_cons.2 ⟨?_, List.forall_mem_singleton.2 ?_⟩⟩
  · exact ⟨_, List.mem_cons_self, twinSignature_vouches ""⟩
  · exact ⟨_, .tail _ List.mem_cons_self, twinSignature_vouches " "⟩

theorem twins_created : ((twins "create").creation .standard).outcome = .ok () :=
  outcome_creation_eq_ok_iff.2 ⟨by rfl, twinParticulars.signatures,
    outcome_checkBase_eq_ok_iff.2 ⟨_, twins_declare "create", twins_admissible .creation, rfl⟩⟩

/-- The twins are accepted, and their gaps tell them apart. -/
theorem twins_key_ids :
    ((twins "create").creation .standard).outcome = .ok () ∧
    ∃ p, (twins "create").Declares .standard p ∧
      (∀ key ∈ p.keys, ∃ fragment, fragment ≠ "" ∧ key.id.fragment = some fragment ∧
        key.id.text =
          p.id.text ++ String.ofList (List.replicate key.id.gap ' ') ++ "#" ++ fragment) ∧
      (p.keys.map fun key => (key.id.gap, key.id.fragment)).Nodup :=
  ⟨twins_created, accepted_key_ids .standard (twins "create") (.inl twins_created)⟩

/-- The id of the second twin is not the document's id, a hash and a fragment, and the first one has the
same fragment. -/
theorem twins_share_fragment :
    (parse (twinOrder "create") twinText = .ok (twins "create") ∧
      ((twins "create").creation .standard).outcome = .ok () ∧
      (twins "create").Declares .standard twinParticulars) ∧
    (∃ key ∈ twinParticulars.keys, ∀ fragment,
      key.id.text ≠ twinParticulars.id.text ++ "#" ++ fragment) ∧
    ¬ (twinParticulars.keys.map (·.id.fragment)).Nodup := by
  have hparse : parse (twinOrder "create") twinText = .ok (twins "create") :=
    parse_eq_ok_iff.2 ⟨parse_twinOrder (.inl rfl), parse_twinText⟩
  refine ⟨⟨hparse, twins_created, twins_declare "create"⟩,
    ⟨twinKey " ", .tail _ List.mem_cons_self, fun fragment hsame => ?_⟩, by decide +kernel⟩
  have htext : (twinKey " ").id.text = twinParticulars.id.text ++ " #k" := by decide +kernel
  rw [htext, String.append_assoc] at hsame
  have hafter := congrArg String.toList hsame
  simp [String.toList_append] at hafter

end Envelope

end DidAdmission
