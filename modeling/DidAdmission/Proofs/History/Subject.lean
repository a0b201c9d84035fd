-- SUMMARY: Whom a document is about: an update changes the id only when the owners sign for that.
import DidAdmission.Proofs.Document.Anchor
import DidAdmission.Proofs.History.Sound

/-!
# Subjects

No check compares the id of a document with the id of its precursor. What holds instead comes from
the anchors: where the ids differ, no key of the document has the id of a key of the precursor, so
the signatures of the owners are none of those that the document needs for its own keys (`strays`).
-/

namespace DidAdmission

/-! ## One change -/

/-- The signatures that target no key of the document. -/
def Particulars.strays (p : Particulars) : List Signature :=
  p.signatures.filter fun signature => p.keys.all fun key => !signature.target.same key.id

/-- Signatures authorize a change if the owners who signed have signed among them. -/
theorem Authorizes.imp {profile : Profile} {action : Action} {message : Bytes}
    {signatures signatures' : List Signature} {owners : List PublicKey}
    (himp : ∀ owner ∈ owners, owner.HasSigned message signatures →
      owner.HasSigned message signatures')
    (h : Authorizes profile action message signatures owners) :
    Authorizes profile action message signatures' owners := by
  unfold Authorizes at h ⊢
  split at h
  · next hany =>
    rw [if_pos hany]
    obtain ⟨owner, howner, hsigned⟩ := h
    exact ⟨owner, howner, himp owner howner hsigned⟩
  · next hall =>
    rw [if_neg hall]
    exact fun owner howner => himp owner howner (h owner howner)

/-- The signature of a key that is anchored in another document is a stray one. -/
theorem PublicKey.HasSigned.stray {policy : NetworkPolicy} {d d' : Document} {p : Particulars}
    {subject : Identifier} {owner : PublicKey} {message : Bytes} (hid : d.id policy = .ok p.id)
    (hanchored : ∀ key ∈ p.keys, key.isAnchoredIn p.id.text = true)
    (hsubject : d'.id policy = .ok subject) (howner : owner.isAnchoredIn subject.text = true)
    (hmoved : p.id ≠ subject) (h : owner.HasSigned message p.signatures) :
    owner.HasSigned message p.strays := by
  obtain ⟨signature, hmem, hvouches⟩ := h
  refine ⟨signature, List.mem_filter.2 ⟨hmem, ?_⟩, hvouches⟩
  rw [List.all_eq_true]
  intro key hkey
  cases hsame : signature.target.same key.id with
  | false => rfl
  | true =>
    have htext : key.id.text = owner.id.text := by
      rw [← hvouches.target]
      exact (eq_of_beq hsame).symm
    exact absurd (anchored_unique hid hsubject (hanchored key hkey) howner htext) hmoved

/-- A change that is accepted keeps the id, or stray signatures of the owners authorize it. -/
theorem Envelope.modification_subject {profile : Profile} {e : Envelope} {precursor : Document}
    {subject : Identifier} {owners : List PublicKey}
    (h : (e.modification profile precursor).outcome = .ok ())
    (hsubject : precursor.id profile.networkPolicy = .ok subject)
    (howners : precursor.publicKeys = .ok owners)
    (hanchored : ∀ owner ∈ owners, owner.isAnchoredIn subject.text = true) :
    ∃ action p, e.action = .ok action ∧ e.Declares profile p ∧
      (p.id = subject ∨ Authorizes profile action e.document.bytes p.strays owners) := by
  obtain ⟨action, p, owners', ⟨haction, -⟩, hp, hadmissible, howners', hauthorizes⟩ :=
    modification_authorized h
  obtain rfl : owners = owners' := Except.ok.inj (howners.symm.trans howners')
  refine ⟨action, p, haction, hp, ?_⟩
  by_cases hmoved : p.id = subject
  · exact .inl hmoved
  · exact .inr (hauthorizes.imp fun owner howner =>
      .stray hp.id hadmissible.anchored hsubject (hanchored owner howner) hmoved)

/-! ## Runs -/

namespace History

/-- Where the keys of the precursor are anchored in its id, a change that is accepted keeps the id
or is authorized by signatures that target no key of the new document. In a run that starts without
a document the keys always are so, and all of them, at least one, sign an update that moves. -/
theorem subject_moves_by_owners (profile : Profile) :
    (∀ (e : Envelope) (precursor : Document) (subject : Identifier) (owners : List PublicKey),
      (e.modification profile precursor).outcome = .ok () →
      precursor.id profile.networkPolicy = .ok subject → precursor.publicKeys = .ok owners →
      (∀ owner ∈ owners, owner.isAnchoredIn subject.text = true) →
      ∃ action p, e.action = .ok action ∧ e.Declares profile p ∧
        (p.id = subject ∨ Authorizes profile action e.document.bytes p.strays owners)) ∧
    ∀ (past : List Step) (s : Step), Accepts profile (after profile none past) s .update →
      ∃ e precursor subject owners p,
        Envelope.parse s.instruction s.document = .ok e ∧
        after profile none past = some precursor ∧ precursor.Sound profile subject owners ∧
        e.Declares profile p ∧
        (p.id = subject ∨ ∀ owner ∈ owners, owner.HasSigned e.document.bytes p.strays) := by
  refine ⟨fun e precursor subject owners => Envelope.modification_subject, ?_⟩
  intro past s haccepts
  obtain ⟨e, hparse, haction, hcase⟩ := accepts_iff.1 haccepts
  obtain ⟨precursor, hprecursor, -, houtcome⟩ := hcase.resolve_left (by simp)
  obtain ⟨subject, owners, hsound⟩ := after_none_sound profile past precursor hprecursor
  obtain ⟨action, p, haction', hp, hsubject⟩ :=
    Envelope.modification_subject houtcome hsound.id hsound.keys hsound.anchored
  obtain rfl : Action.update = action := Except.ok.inj (haction.symm.trans haction')
  refine ⟨e, precursor, subject, owners, p, hparse, hprecursor, hsound, hp, ?_⟩
  rwa [Authorizes, if_neg (by simp)] at hsubject

theorem after_foundingStep :
    after .standard none [foundingStep] = some Envelope.founding.document := by
  rw [after_cons, step_current_of_accepts (foundingStep_accepts none) Envelope.parse_founding]
  rfl

theorem movingStep_current :
    (step .standard (after .standard none [foundingStep]) movingStep).current =
      some Envelope.moving.document := by
  rw [after_foundingStep, step_current_of_accepts movingStep_accepts Envelope.parse_moving]
  rfl

theorem after_movingStep :
    after .standard none [foundingStep, movingStep] = some Envelope.moving.document := by
  rw [← List.singleton_append, after_append, after_cons, movingStep_current, after_nil]

/-- The owner of the founded document has signed the update that moves it. -/
theorem movingStep_signed_by_owner :
    Accepts .standard (after .standard none [foundingStep]) movingStep .update ∧
      ∃ e precursor subject owners p,
        Envelope.parse movingStep.instruction movingStep.document = .ok e ∧
        after .standard none [foundingStep] = some precursor ∧
        precursor.Sound .standard subject owners ∧ e.Declares .standard p ∧
        (p.id = subject ∨ ∀ owner ∈ owners, owner.HasSigned e.document.bytes p.strays) := by
  have haccepts : Accepts .standard (after .standard none [foundingStep]) movingStep .update := by
    rw [after_foundingStep]
    exact movingStep_accepts
  exact ⟨haccepts, (subject_moves_by_owners .standard).2 [foundingStep] movingStep haccepts⟩

/-- An update that is accepted, in a run that starts without a document, and moves to another id. -/
theorem subject_not_preserved :
    (Envelope.moving.modification .standard Envelope.founding.document).outcome = .ok () ∧
      Envelope.moving.document.id Profile.standard.networkPolicy ≠
        Envelope.founding.document.id Profile.standard.networkPolicy ∧
      Accepts .standard none foundingStep .create ∧
      Accepts .standard (after .standard none [foundingStep]) movingStep .update ∧
      after .standard none [foundingStep] = some Envelope.founding.document ∧
      after .standard none [foundingStep, movingStep] = some Envelope.moving.document := by
  have hids : Envelope.moving.document.id Profile.standard.networkPolicy ≠
      Envelope.founding.document.id Profile.standard.networkPolicy := by
    rw [Envelope.moving_declares.id, Envelope.founding_declares.id]
    intro h
    exact absurd (Except.ok.inj h) (by decide +kernel)
  have hmoved :
      after .standard none [foundingStep, movingStep] = some Envelope.moving.document := by
    rw [← List.singleton_append, after_append, after_foundingStep, after_cons,
      step_current_of_accepts movingStep_accepts Envelope.parse_moving]
    rfl
  refine ⟨Envelope.moving_accepted, hids, foundingStep_accepts none, ?_, after_foundingStep, hmoved⟩
  rw [after_foundingStep]
  exact movingStep_accepts

end History

end DidAdmission
