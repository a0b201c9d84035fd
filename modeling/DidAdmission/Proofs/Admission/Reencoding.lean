-- SUMMARY: The way in which a signature is written down does not change what becomes of an instruction.
import DidAdmission.Proofs.Admission.KeyIds
import DidAdmission.Proofs.Admission.Likeness
import DidAdmission.Proofs.Codec.Encodings
import DidAdmission.Proofs.History.Transition

/-!
# Signatures in another encoding

A signature entry whose material is moved to the field of another encoding, as the text of the same bytes,
is read as the same signature but for the encoding. No check asks for that, so an instruction with such
entries is judged as before, with the same events.
-/

namespace DidAdmission

/-! ## Searching for signatures -/

namespace Check

theorem firstRepeated?_inBase58 (seen : List String) (signatures : List Signature) :
    firstRepeated? Signature.target seen (signatures.map Signature.inBase58) =
      (firstRepeated? Signature.target seen signatures).map Signature.inBase58 := by
  induction signatures generalizing seen with
  | nil => rfl
  | cons s rest ih =>
    have htarget : s.inBase58.target = s.target := rfl
    rw [List.map_cons, firstRepeated?, firstRepeated?, htarget, ih]
    split <;> rfl

theorem distinctTargets_inBase58 (signatures : List Signature) :
    distinctTargets (signatures.map Signature.inBase58) = distinctTargets signatures := by
  rw [distinctTargets, firstRepeated?_inBase58, distinctTargets]
  cases firstRepeated? Signature.target [] signatures <;> rfl

theorem targeting?_inBase58 (signatures : List Signature) (key : PublicKey) :
    targeting? (signatures.map Signature.inBase58) key =
      (targeting? signatures key).map Signature.inBase58 := by
  rw [targeting?, List.find?_map]
  rfl

theorem lastTargeting?_inBase58 (signatures : List Signature) (key : PublicKey) :
    lastTargeting? (signatures.map Signature.inBase58) key =
      (lastTargeting? signatures key).map Signature.inBase58 := by
  rw [lastTargeting?, List.findRev?_eq_find?_reverse, ← List.map_reverse, List.find?_map,
    lastTargeting?, List.findRev?_eq_find?_reverse]
  rfl

theorem claims_inBase58 (owners : List PublicKey) (signatures : List Signature) :
    claims owners (signatures.map Signature.inBase58) = (claims owners signatures).map pairInBase58 := by
  simp only [claims, List.filter_map, List.map_map, List.map_flatMap]
  rfl

/-- Signatures that differ in their encoding only are found alike. -/
theorem Alike.of_inBase58 {signatures signatures' : List Signature}
    (h : signatures.map Signature.inBase58 = signatures'.map Signature.inBase58) :
    Alike signatures signatures' where
  count := by simpa using congrArg List.length h
  distinct := by rw [← distinctTargets_inBase58, h, distinctTargets_inBase58]
  first := fun key => by rw [← targeting?_inBase58, h, targeting?_inBase58]
  last := fun key => by rw [← lastTargeting?_inBase58, h, lastTargeting?_inBase58]
  claims := fun owners => by rw [← claims_inBase58, h, claims_inBase58]

end Check

/-! ## Entries -/

theorem Material.signatureFields_nodup : Material.signatureFields.Nodup := by decide

theorem Material.signatureFields_names : ∀ field ∈ Material.signatureFields,
    ∀ field' ∈ Material.signatureFields, field.name = field'.name → field = field' := by decide

/-- The entry stays, or it carries a signature, and its material is moved to the field of another encoding
as the text of the same bytes. -/
inductive Json.Reencoded : Json → Json → Prop
  | same (item : Json) : Reencoded item item
  | moved {entry entry' : Json.Object} {s : Signature} {material : Material} {field : MaterialField}
    {text : String} (hextracts : Signature.ofEntry (.object entry) = .ok s)
    (hcarries : Material.resolve entry Material.signatureFields = .ok material)
    (hfield : field ∈ Material.signatureFields)
    (htext : field.encoding.encode? s.bytes = some text)
    (hput : entry'.get? field.name = some (.text text))
    (htaken : material.field ≠ field → Material.inField? entry' material.field = none)
    (hrest : ∀ name, name ≠ field.name → name ≠ material.field.name →
      entry'.get? name = entry.get? name) :
    Reencoded (.object entry) (.object entry')

theorem Json.Reencoded.ofEntry_eq {item item' : Json} (h : Json.Reencoded item item') :
    (Signature.ofEntry item).map Signature.inBase58 =
      (Signature.ofEntry item').map Signature.inBase58 := by
  cases h with
  | same => rfl
  | @moved entry entry' s material field text hextracts hcarries hfield htext hput htaken hrest =>
    have hread : Signature.ofEntry (.object entry') = .ok { s with encoding := field.encoding } := by
      obtain ⟨hmaterial, -, hothers⟩ :=
        (Material.resolve_eq_ok_iff Material.signatureFields_nodup).1 hcarries
      obtain ⟨_, hentry, hholds⟩ := Signature.ofEntry_eq_ok_iff.1 hextracts
      cases hentry
      -- The names of the other members are not names of material fields.
      have hkept (name : String) (hname : ∀ f ∈ Material.signatureFields, name ≠ f.name) :
          entry'.get? name = entry.get? name :=
        hrest name (hname field hfield) (hname material.field hmaterial)
      refine Signature.ofEntry_eq_ok_iff.2 ⟨entry', rfl, ?target, ?suite, nofun, ?material⟩
      case target =>
        obtain ⟨target, htarget, huri⟩ := hholds.id
        exact ⟨target, (hkept "id" (by decide)).trans htarget, huri⟩
      case suite => exact (hkept "type" (by decide)).trans hholds.type
      case material =>
        rw [← Json.Object.material_eq_ok_iff]
        refine Json.Object.material_encode Material.signatureFields_nodup hfield htext hput ?_
        intro other hother hne
        by_cases htaken' : other = material.field
        · subst htaken'
          exact htaken hne
        · have hname : other.name ≠ field.name := fun hname =>
            hne (Material.signatureFields_names other hother field hfield hname)
          have hname' : other.name ≠ material.field.name := fun hname =>
            htaken' (Material.signatureFields_names other hother material.field hmaterial hname)
          rw [Material.inField?, hrest other.name hname hname']
          exact hothers other hother htaken'
    rw [hextracts, hread]
    rfl

/-! ## Instructions -/

namespace Instruction

/-- The second instruction asks for the same action and carries the same entries, some of them with their
material in another encoding. -/
structure Reencodes (i i' : Instruction) : Prop where
  action : i.action = i'.action
  entries : ∃ entries entries', i.submission.object.optionalArray "signatures" = .ok entries ∧
    i'.submission.object.optionalArray "signatures" = .ok entries' ∧
    List.Forall₂ Json.Reencoded entries entries'

theorem Reencodes.signatures_eq {i i' : Instruction} (h : i.Reencodes i') :
    i.signatures.map (List.map Signature.inBase58) =
      i'.signatures.map (List.map Signature.inBase58) := by
  obtain ⟨entries, entries', hentries, hentries', hreencoded⟩ := h.entries
  rw [signatures, signatures, hentries, hentries', ok_bind, ok_bind, mapM_map, mapM_map]
  clear hentries hentries'
  induction hreencoded with
  | nil => rfl
  | cons hentry _ ih => rw [List.mapM_cons, List.mapM_cons, hentry.ofEntry_eq, ih]

theorem Reencodes.foundAlike {i i' : Instruction} (h : i.Reencodes i') : i.FoundAlike i' := by
  have hsignatures := h.signatures_eq
  cases hs : i.signatures with
  | error failure =>
    cases hs' : i'.signatures with
    | error failure' =>
      rw [hs, hs'] at hsignatures
      obtain rfl : failure = failure' := Except.error.inj hsignatures
      exact .same (hs.trans hs'.symm)
    | ok signatures' =>
      rw [hs, hs'] at hsignatures
      cases hsignatures
  | ok signatures =>
    cases hs' : i'.signatures with
    | error failure' =>
      rw [hs, hs'] at hsignatures
      cases hsignatures
    | ok signatures' =>
      rw [hs, hs'] at hsignatures
      exact .alike hs hs' (.of_inBase58 (Except.ok.inj hsignatures))

end Instruction

/-- An instruction is judged as before, with the same events, when the material of any of its signatures
is moved to the field of another encoding. -/
theorem reencoding_keeps_judgement (profile : Profile) (question : Question) (document : String)
    (precursor : Option String) {instruction instruction' : String} {i i' : Instruction}
    (h : Instruction.parse instruction = .ok i) (h' : Instruction.parse instruction' = .ok i')
    (hreencodes : i.Reencodes i') :
    question.answer profile instruction document precursor =
      question.answer profile instruction' document precursor :=
  Question.answer_alike h h' hreencodes.foundAlike (hreencodes.action ▸ .same _) fun _ =>
    hreencodes.action

/-! ## Twins in two encodings

The twins with one of their signatures under a multibase code. -/

namespace Envelope

def recodedMaterial : String :=
  "z2NTz34gdF3KxwkapwYutgPfDVLuGhhnJpoKZkAWukvmBUk1bA6TkMfNcFQyVpguvjaCFep1Rrh1jbQVfbVf7Luom"

def recodedOrder : String :=
  orderText "create" <|
    "\x7b\"id\":\"" ++ twinId "" ++ "#k\",\"type\":\"Ed25519Signature2018\",\"signatureMultibase\":\""
      ++ recodedMaterial ++ "\"\x7d," ++ signatureText (twinId " ") twinMaterial

def recodedInstruction : Instruction where
  submission.text := recodedOrder
  submission.object :=
    [("action", .text "create"),
     ("signatures", .array
       [.object
          [("id", .text (twinId "#k")), ("signatureMultibase", .text recodedMaterial),
           ("type", .text "Ed25519Signature2018")],
        signatureEntry (twinId " #k") twinMaterial])]

set_option maxRecDepth 20000 in
theorem parse_recodedOrder : Instruction.parse recodedOrder = .ok recodedInstruction := by
  have horder : Json.read recodedOrder = .ok (.object recodedInstruction.submission.object) := by
    unfold Json.read recodedOrder orderText signatureText twinId twinMaterial recodedMaterial
    simp only [String.toList_append]
    repeat rw [String.toList_ofList]
    rfl
  exact Instruction.parse_of_read horder

theorem twins_recoded : (twinInstruction "create").Reencodes recodedInstruction where
  action := by
    have hcreate : (twinInstruction "create").action = .ok .create := by rfl
    have hcreate' : recodedInstruction.action = .ok .create := by rfl
    rw [hcreate, hcreate']
  entries := by
    have hextracts : Signature.ofEntry (signatureEntry (twinId "#k") twinMaterial) =
        .ok (twinSignature "") := toOption_eq_some_iff.1 (by decide +kernel)
    have htext : Encoding.multibase.encode? twinBytes = some recodedMaterial := by decide +kernel
    refine ⟨_, _, rfl, rfl, .cons ?_ (.cons (.same _) .nil)⟩
    refine @Json.Reencoded.moved _ _ _ ⟨⟨.base64, "signatureBase64"⟩, .text twinMaterial⟩
      ⟨.multibase, "signatureMultibase"⟩ _ hextracts rfl (by decide) htext rfl (fun _ => rfl) ?_
    intro name hname hname'
    have hmultibase : (name == "signatureMultibase") = false := beq_false_of_ne hname
    have hbase64 : (name == "signatureBase64") = false := beq_false_of_ne hname'
    simp only [Json.Object.get?, List.lookup_cons, hmultibase, hbase64]

/-- The twins are accepted, and judged as the twins with a signature in another encoding. -/
theorem twins_judged_in_any_encoding :
    (Instruction.parse (twinOrder "create") = .ok (twinInstruction "create") ∧
      Instruction.parse recodedOrder = .ok recodedInstruction ∧
      (twinInstruction "create").Reencodes recodedInstruction) ∧
    (Question.creation.answer .standard (twinOrder "create") twinText none).verdict = .accepted ∧
    Question.creation.answer .standard (twinOrder "create") twinText none =
      Question.creation.answer .standard recodedOrder twinText none := by
  have hparse := parse_twinOrder (.inl rfl)
  have htwins : parse (twinOrder "create") twinText = .ok (twins "create") :=
    parse_eq_ok_iff.2 ⟨hparse, parse_twinText⟩
  have haccepted :
      (Question.creation.answer .standard (twinOrder "create") twinText none).verdict = .accepted := by
    rw [Question.answer_creation htwins]
    exact History.verdict_ofLogged_eq_accepted_iff.2 twins_created
  exact ⟨⟨hparse, parse_recodedOrder, twins_recoded⟩, haccepted,
    reencoding_keeps_judgement .standard .creation twinText none hparse parse_recodedOrder
      twins_recoded⟩

end Envelope

end DidAdmission
