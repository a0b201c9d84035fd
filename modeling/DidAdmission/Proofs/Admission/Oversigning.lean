-- SUMMARY: A signature more than is needed does no harm, wherever it stands and whatever it targets.
import DidAdmission.Proofs.Admission.Loosening
import DidAdmission.Proofs.Admission.Reordering
import DidAdmission.Proofs.History.Subject

/-!
# Signatures beyond those needed

One more entry among the signatures of an instruction is read as one more signature. If it has a target of
its own, every signature that was found for a key is still found, and no check but the exact count of a
creation limits how many there are. So what was accepted stays accepted.
-/

namespace DidAdmission

/-! ## One more signature -/

section

variable {before after : List Signature} {extra : Signature}

theorem sublist_insert : (before ++ after).Sublist (before ++ extra :: after) :=
  (List.sublist_cons_self extra after).append_left before

theorem nodup_targets_insert (htargets : ((before ++ after).map (·.target.text)).Nodup)
    (hnew : ∀ s ∈ before ++ after, s.target.text ≠ extra.target.text) :
    ((before ++ extra :: after).map (·.target.text)).Nodup := by
  have hperm : (before ++ extra :: after).Perm (extra :: (before ++ after)) := List.perm_middle
  rw [(hperm.map _).nodup_iff, List.map_cons, List.nodup_cons]
  refine ⟨fun hmem => ?_, htargets⟩
  obtain ⟨s, hs, hsame⟩ := List.mem_map.1 hmem
  exact hnew s hs hsame

theorem PublicKey.HasSigned.insert {key : PublicKey} {message : Bytes}
    (h : key.HasSigned message (before ++ after)) :
    key.HasSigned message (before ++ extra :: after) := by
  obtain ⟨s, hs, hvouches⟩ := h
  exact ⟨s, sublist_insert.subset hs, hvouches⟩

/-- Admissible particulars stay so, but where a creation counts exactly. -/
theorem Particulars.Admissible.insert {profile : Profile} {stage : Check.Stage} {message : Bytes}
    {p : Particulars} (h : p.Admissible profile stage message)
    (hsignatures : p.signatures = before ++ after)
    (hnew : ∀ s ∈ before ++ after, s.target.text ≠ extra.target.text)
    (hcount : stage = .creation → profile.signatureCount = .atLeast) :
    Admissible profile stage message { p with signatures := before ++ extra :: after } where
  times := h.times
  targets := nodup_targets_insert (hsignatures ▸ h.targets) hnew
  keyIds := h.keyIds
  someKey := h.someKey
  enough := by
    have henough : p.keys.length ≤ (before ++ after).length := hsignatures ▸ h.enough
    exact Nat.le_trans henough sublist_insert.length_le
  exact := by
    intro hcreation hexact
    rw [hcount hcreation] at hexact
    cases hexact
  suites := h.suites
  anchored := h.anchored
  signed := fun key hkey => (hsignatures ▸ h.signed key hkey).insert

end

/-! ## One more entry -/

namespace Instruction

/-- The second instruction asks for the same action and carries the item as one more entry among its
signatures. -/
structure Inserts (item : Json) (i i' : Instruction) : Prop where
  action : i.action = i'.action
  entries : ∃ before after,
    i.submission.object.optionalArray "signatures" = .ok (before ++ after) ∧
    i'.submission.object.optionalArray "signatures" = .ok (before ++ item :: after)

variable {item : Json} {i i' : Instruction} {extra : Signature}

theorem Inserts.signatures_eq_ok (h : i.Inserts item i') (hextra : Signature.ofEntry item = .ok extra)
    {signatures : List Signature} (hsignatures : i.signatures = .ok signatures) :
    ∃ before after, signatures = before ++ after ∧
      i'.signatures = .ok (before ++ extra :: after) := by
  obtain ⟨before, after, hentries, hentries'⟩ := h.entries
  rw [Instruction.signatures, hentries, ok_bind, List.mapM_append, bind_eq_ok_iff] at hsignatures
  obtain ⟨earlier, hearlier, hrest⟩ := hsignatures
  obtain ⟨later, hlater, hsplit⟩ := bind_eq_ok_iff.1 hrest
  refine ⟨earlier, later, (Except.ok.inj hsplit).symm, ?_⟩
  rw [Instruction.signatures, hentries', ok_bind, List.mapM_append, hearlier, ok_bind, List.mapM_cons,
    hextra, ok_bind, hlater]
  rfl

/-- The entry is read as a signature whose target no signature of the instruction has. -/
structure Extends (item : Json) (i i' : Instruction) (extra : Signature) : Prop
    extends i.Inserts item i' where
  extracts : Signature.ofEntry item = .ok extra
  newTarget : ∀ signatures, i.signatures = .ok signatures →
    ∀ s ∈ signatures, s.target.text ≠ extra.target.text

end Instruction

/-! ## Envelopes -/

namespace Envelope

variable {profile : Profile} {item : Json} {i i' : Instruction} {d : Document} {extra : Signature}

/-- The envelope with one more signature declares what the other one does, with that signature among the
others, and its particulars are admissible as well. -/
theorem Declares.insert {stage : Check.Stage} {p : Particulars} (h : i.Extends item i' extra)
    (hp : Declares profile ⟨i, d⟩ p) (hadmissible : p.Admissible profile stage d.bytes)
    (hcount : stage = .creation → profile.signatureCount = .atLeast) :
    ∃ before after, p.signatures = before ++ after ∧
      Declares profile ⟨i', d⟩ { p with signatures := before ++ extra :: after } ∧
      Particulars.Admissible profile stage d.bytes
        { p with signatures := before ++ extra :: after } := by
  obtain ⟨before, after, hsplit, hsignatures⟩ := h.signatures_eq_ok h.extracts hp.signatures
  have hnew := hsplit ▸ h.newTarget p.signatures hp.signatures
  exact ⟨before, after, hsplit,
    ⟨hp.context, hp.created, hp.updated, hsignatures, hp.keys, hp.id⟩,
    hadmissible.insert hsplit hnew hcount⟩

theorem creation_insert (h : i.Extends item i' extra) (hcount : profile.signatureCount = .atLeast)
    (haccepted : (creation profile ⟨i, d⟩).outcome = .ok ()) :
    (creation profile ⟨i', d⟩).outcome = .ok () := by
  obtain ⟨haction, signatures, hbase⟩ := outcome_creation_eq_ok_iff.1 haccepted
  obtain ⟨p, hp, hadmissible, -⟩ := outcome_checkBase_eq_ok_iff.1 hbase
  obtain ⟨before, after, -, hp', hadmissible'⟩ := hp.insert h hadmissible fun _ => hcount
  have haction' : action ⟨i', d⟩ = .ok .create :=
    action_eq_ok_iff.2 (h.action ▸ action_eq_ok_iff.1 haction)
  exact outcome_creation_eq_ok_iff.2
    ⟨haction', _, outcome_checkBase_eq_ok_iff.2 ⟨_, hp', hadmissible', rfl⟩⟩

theorem modification_insert {precursor : Document} (h : i.Extends item i' extra)
    (haccepted : (modification profile ⟨i, d⟩ precursor).outcome = .ok ()) :
    (modification profile ⟨i', d⟩ precursor).outcome = .ok () := by
  obtain ⟨asked, signatures, ⟨hasked, hchanges⟩, hbase, hsuccession, hownership⟩ :=
    outcome_modification_eq_ok_iff.1 haccepted
  obtain ⟨p, hp, hadmissible, rfl⟩ := outcome_checkBase_eq_ok_iff.1 hbase
  obtain ⟨owners, howners, hauthorizes⟩ :=
    (Check.outcome_ownership_eq_ok_iff hadmissible.targets).1 hownership
  obtain ⟨before, after, hsplit, hp', hadmissible'⟩ := hp.insert h hadmissible nofun
  have hauthorizes' : Authorizes profile asked d.bytes (before ++ extra :: after) owners :=
    hauthorizes.imp fun owner _ hsigned => (hsplit ▸ hsigned).insert
  have hasked' : action ⟨i', d⟩ = .ok asked :=
    action_eq_ok_iff.2 (h.action ▸ action_eq_ok_iff.1 hasked)
  exact outcome_modification_eq_ok_iff.2 ⟨asked, _, ⟨hasked', hchanges⟩,
    outcome_checkBase_eq_ok_iff.2 ⟨_, hp', hadmissible', rfl⟩, hsuccession,
    (Check.outcome_ownership_eq_ok_iff hadmissible'.targets).2 ⟨owners, howners, hauthorizes'⟩⟩

end Envelope

/-! ## Questions -/

section

variable {profile : Profile} {item : Json} {i i' : Instruction} {extra : Signature}

theorem Question.check_insert {question : Question} {d : Document} {precursor : Option Document}
    (h : i.Extends item i' extra)
    (hcount : i.action = .ok .create → profile.signatureCount = .atLeast)
    (haccepted :
      (Judgement.ofOption (question.check profile ⟨i, d⟩ precursor)).verdict = .accepted) :
    (Judgement.ofOption (question.check profile ⟨i', d⟩ precursor)).verdict = .accepted := by
  have hcreation (houtcome : (Envelope.creation profile ⟨i, d⟩).outcome = .ok ()) :
      (Envelope.creation profile ⟨i', d⟩).outcome = .ok () := by
    have haction := (Envelope.outcome_creation_eq_ok_iff.1 houtcome).1
    exact Envelope.creation_insert h (hcount (Envelope.action_eq_ok_iff.1 haction)) houtcome
  have haction {action : Action} (haction : Envelope.action ⟨i, d⟩ = .ok action) :
      Envelope.action ⟨i', d⟩ = .ok action :=
    Envelope.action_eq_ok_iff.2 (h.action ▸ Envelope.action_eq_ok_iff.1 haction)
  cases question with
  | creation =>
    have houtcome := History.verdict_ofLogged_eq_accepted_iff.1 haccepted
    exact History.verdict_ofLogged_eq_accepted_iff.2 (hcreation houtcome)
  | modification =>
    cases precursor with
    | none => cases haccepted
    | some c =>
      have houtcome := History.verdict_ofLogged_eq_accepted_iff.1 haccepted
      exact History.verdict_ofLogged_eq_accepted_iff.2 (Envelope.modification_insert h houtcome)
  | dispatch =>
    apply History.verdict_dispatch_eq_accepted_iff.2
    rcases History.verdict_dispatch_eq_accepted_iff.1 haccepted with
      ⟨hcreate, houtcome⟩ | ⟨c, hcurrent, hchange, houtcome⟩
    · exact .inl ⟨haction hcreate, hcreation houtcome⟩
    · exact .inr ⟨c, hcurrent, hchange.imp haction haction,
        Envelope.modification_insert h houtcome⟩

/-- An envelope that is accepted stays accepted with one more entry among the signatures, at any position,
that is read as a signature with a target of its own; a creation must not count exactly. -/
theorem oversigning_keeps_acceptance (question : Question) (profile : Profile) (document : String)
    (precursor : Option String) {instruction instruction' : String}
    (hparse : Instruction.parse instruction = .ok i)
    (hparse' : Instruction.parse instruction' = .ok i') (h : i.Extends item i' extra)
    (hcount : i.action = .ok .create → profile.signatureCount = .atLeast)
    (haccepted : (question.answer profile instruction document precursor).verdict = .accepted) :
    (question.answer profile instruction' document precursor).verdict = .accepted := by
  cases hdocument : Document.parse document with
  | error reason =>
    simp [Question.answer, Envelope.parse, hparse, hdocument, Judgement.unread] at haccepted
  | ok d =>
    have henvelope : Envelope.parse instruction document = .ok ⟨i, d⟩ :=
      Envelope.parse_eq_ok_iff.2 ⟨hparse, hdocument⟩
    have henvelope' : Envelope.parse instruction' document = .ok ⟨i', d⟩ :=
      Envelope.parse_eq_ok_iff.2 ⟨hparse', hdocument⟩
    cases hcurrent : precursor.mapM Document.parse with
    | error reason => simp [Question.answer, henvelope, hcurrent, Judgement.unread] at haccepted
    | ok current =>
      rw [Question.answer_eq_check henvelope hcurrent] at haccepted
      rw [Question.answer_eq_check henvelope' hcurrent]
      exact Question.check_insert h hcount haccepted

end

namespace Envelope

theorem excess_extends : (twinInstruction "create").Extends (signatureEntry (twinId "/#k") twinMaterial)
    excess.instruction (twinSignature "/") where
  action := by
    have hcreate : (twinInstruction "create").action = .ok .create := by rfl
    have hcreate' : excess.instruction.action = .ok .create := by rfl
    rw [hcreate, hcreate']
  entries := ⟨[signatureEntry (twinId "#k") twinMaterial, signatureEntry (twinId " #k") twinMaterial], [],
    rfl, rfl⟩
  extracts := toOption_eq_some_iff.1 (by decide +kernel)
  newTarget := by
    intro signatures hsignatures
    obtain rfl := Except.ok.inj ((twins_declare "create").signatures.symm.trans hsignatures)
    decide +kernel

/-- The twins with a signature that targets no key of theirs, where creations need not count exactly. -/
theorem excess_stays_accepted :
    (Instruction.parse (twinOrder "create") = .ok (twinInstruction "create") ∧
      Instruction.parse excessOrder = .ok excess.instruction ∧
      (twinInstruction "create").Extends (signatureEntry (twinId "/#k") twinMaterial)
        excess.instruction (twinSignature "/")) ∧
    (Question.creation.answer .tolerant (twinOrder "create") twinText none).verdict = .accepted ∧
    (Question.creation.answer .tolerant excessOrder twinText none).verdict = .accepted := by
  have hparse := parse_twinOrder (.inl rfl)
  obtain ⟨hparse', -⟩ := parse_eq_ok_iff.1 parse_excess
  have htwins : parse (twinOrder "create") twinText = .ok (twins "create") :=
    parse_eq_ok_iff.2 ⟨hparse, parse_twinText⟩
  have haccepted :
      (Question.creation.answer .tolerant (twinOrder "create") twinText none).verdict = .accepted := by
    rw [Question.answer_creation htwins]
    exact History.verdict_ofLogged_eq_accepted_iff.2
      ((outcome_creation_relaxes Profile.tolerant_loosens_standard).keeps () twins_created)
  exact ⟨⟨hparse, hparse', excess_extends⟩, haccepted,
    oversigning_keeps_acceptance .creation .tolerant twinText none hparse hparse' excess_extends
      (fun _ => rfl) haccepted⟩

end Envelope

end DidAdmission
