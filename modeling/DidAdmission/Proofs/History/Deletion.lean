-- SUMMARY: Where one owner may delete a document, all of them may, unless there is none.
import DidAdmission.Proofs.Admission.KeyIds
import DidAdmission.Proofs.History.Authority

/-!
# Deletion by one owner

A deletion that all keys of the precursor have signed is one that some key has signed, so it needs no
other signatures where one owner suffices. A precursor without keys is the exception: nobody has to sign
where all of nobody must, and nobody can where one must. No run has such a precursor.
-/

namespace DidAdmission

/-- The profile with another policy for deletions. -/
def Profile.deletingBy (profile : Profile) (policy : DeletionPolicy) : Profile :=
  { profile with deletion := policy }

/-! ## One deletion -/

section

variable {profile : Profile} {e : Envelope} {precursor : Document}

/-- The checks of one document do not ask who may delete it. -/
theorem Envelope.checkBase_deletingBy (policy : DeletionPolicy) (stage : Check.Stage)
    (e : Envelope) :
    e.checkBase (profile.deletingBy policy) stage = e.checkBase profile stage := by
  unfold checkBase checkStructure
  rfl

theorem Authorizes.one_of_all {message : Bytes} {signatures : List Signature}
    {owners : List PublicKey} (hsome : owners ≠ [])
    (h : Authorizes (profile.deletingBy .allKeys) .delete message signatures owners) :
    Authorizes (profile.deletingBy .anyKey) .delete message signatures owners := by
  obtain ⟨owner, howner⟩ := List.exists_mem_of_ne_nil owners hsome
  rw [Authorizes, if_pos ⟨rfl, rfl⟩]
  exact ⟨owner, howner, h.all_signed rfl owner howner⟩

/-- What a deletion that all owners must sign has passed. -/
theorem Envelope.deletion_passed (haction : e.action = .ok .delete)
    (h : (e.modification (profile.deletingBy .allKeys) precursor).outcome = .ok ()) :
    ∃ signatures owners,
      (e.checkBase profile .modification).outcome = .ok signatures ∧
      (signatures.map (·.target.text)).Nodup ∧
      Check.succession e.document precursor = .ok () ∧ precursor.publicKeys = .ok owners ∧
      Authorizes (profile.deletingBy .allKeys) .delete e.document.bytes signatures owners := by
  obtain ⟨action, signatures, ⟨haction', -⟩, hbase, hsuccession, hownership⟩ :=
    outcome_modification_eq_ok_iff.1 h
  obtain rfl : Action.delete = action := Except.ok.inj (haction.symm.trans haction')
  rw [checkBase_deletingBy] at hbase
  obtain ⟨p, -, hadmissible, rfl⟩ := outcome_checkBase_eq_ok_iff.1 hbase
  obtain ⟨owners, howners, hauthorizes⟩ :=
    (Check.outcome_ownership_eq_ok_iff hadmissible.targets).1 hownership
  exact ⟨p.signatures, owners, hbase, hadmissible.targets, hsuccession, howners, hauthorizes⟩

/-- What all owners may delete, one of them may, and nobody else. -/
theorem Envelope.deletion_by_one (haction : e.action = .ok .delete)
    (h : (e.modification (profile.deletingBy .allKeys) precursor).outcome = .ok ()) :
    ∃ owners, precursor.publicKeys = .ok owners ∧
      ((owners ≠ [] ∧ (e.modification (profile.deletingBy .anyKey) precursor).outcome = .ok ()) ∨
       (owners = [] ∧ (e.modification (profile.deletingBy .anyKey) precursor).outcome =
         .error .noMatchingSignature)) := by
  obtain ⟨signatures, owners, hbase, htargets, hsuccession, howners, hauthorizes⟩ :=
    deletion_passed haction h
  rw [← checkBase_deletingBy .anyKey] at hbase
  refine ⟨owners, howners, ?_⟩
  by_cases hsome : owners = []
  · subst hsome
    refine .inr ⟨rfl, ?_⟩
    have hchanging := changingAction_eq_ok_iff.2 ⟨haction, .inr rfl⟩
    simp only [modification, Logged.outcome_reported, Logged.outcome_bind, Logged.outcome_ofExcept,
      hchanging, hbase, hsuccession, ok_bind, Check.ownership, howners, mapError_ok]
    rfl
  · exact .inl ⟨hsome, outcome_modification_eq_ok_iff.2 ⟨.delete, signatures,
      ⟨haction, .inr rfl⟩, hbase, hsuccession, (Check.outcome_ownership_eq_ok_iff htargets).2
        ⟨owners, howners, hauthorizes.one_of_all hsome⟩⟩⟩

end

namespace History

/-! ## Runs -/

/-- A deletion that is accepted where all owners must sign is accepted where one of them suffices, unless
the precursor has no keys: then no signature matches. In a run that starts without a document, the
current document has keys, so there every such deletion is accepted. -/
theorem deletion_by_all_or_one (profile : Profile) :
    (∀ (e : Envelope) (precursor : Document), e.action = .ok .delete →
      (e.modification (profile.deletingBy .allKeys) precursor).outcome = .ok () →
      ∃ owners, precursor.publicKeys = .ok owners ∧
        ((owners ≠ [] ∧ (e.modification (profile.deletingBy .anyKey) precursor).outcome = .ok ()) ∨
         (owners = [] ∧ (e.modification (profile.deletingBy .anyKey) precursor).outcome =
           .error .noMatchingSignature))) ∧
    ∀ (past : List Step) (s : Step),
      Accepts (profile.deletingBy .allKeys) (after profile none past) s .delete →
      Accepts (profile.deletingBy .anyKey) (after profile none past) s .delete := by
  refine ⟨fun e precursor => Envelope.deletion_by_one, ?_⟩
  intro past s haccepts
  obtain ⟨e, hparse, haction, hcase⟩ := accepts_iff.1 haccepts
  obtain ⟨current, hcurrent, -, houtcome⟩ := hcase.resolve_left (by simp)
  obtain ⟨name, owners, hsound⟩ := after_none_sound profile past current hcurrent
  obtain ⟨owners', howners', hcase'⟩ := Envelope.deletion_by_one haction houtcome
  obtain rfl : owners = owners' := Except.ok.inj (hsound.keys.symm.trans howners')
  obtain ⟨-, hone⟩ := hcase'.resolve_right fun hnone => hsound.someKey hnone.1
  exact accepts_iff.2 ⟨e, hparse, haction, .inr ⟨current, hcurrent, .inr rfl, hone⟩⟩

end History

/-! ## The twins, deleted

The twins as the last state of a document: of the founding document, whose key has signed, and of one
without keys. -/

namespace Envelope

set_option maxRecDepth 20000 in
theorem parse_twinDeletion : parse (twinOrder "delete") twinText = .ok (twins "delete") := by
  have horder : Json.read (twinOrder "delete") =
      .ok (.object (twinInstruction "delete").submission.object) := by
    unfold Json.read twinOrder orderText signatureText twinId twinMaterial
    simp only [String.toList_append]
    repeat rw [String.toList_ofList]
    rfl
  exact parse_eq_ok_iff.2 ⟨Instruction.parse_of_read horder, parse_twinText⟩

theorem twins_deleted {precursor : Document} {owners : List PublicKey}
    (hcreated : precursor.created = .ok none) (hupdated : precursor.updated = .ok none)
    (howners : precursor.publicKeys = .ok owners)
    (hsigned : ∀ owner ∈ owners, owner.HasSigned twinDocument.bytes twinParticulars.signatures) :
    ((twins "delete").modification (Profile.standard.deletingBy .allKeys) precursor).outcome =
      .ok () := by
  have hp := twins_declare "delete"
  have hsucceeds : twinParticulars.Succeeds precursor :=
    ⟨hcreated, _, _, rfl, hupdated, nofun⟩
  have hauthorizes : Authorizes (Profile.standard.deletingBy .allKeys) .delete twinDocument.bytes
      twinParticulars.signatures owners := by
    rw [Authorizes, if_neg (by decide)]
    exact hsigned
  exact outcome_modification_eq_ok_iff.2 ⟨.delete, twinParticulars.signatures, ⟨by rfl, .inr rfl⟩,
    outcome_checkBase_eq_ok_iff.2 ⟨_, hp, twins_admissible .modification, rfl⟩,
    (Check.succession_eq_ok_iff hp.created hp.updated).2 hsucceeds,
    (Check.outcome_ownership_eq_ok_iff (twins_wellFormed .modification).targets).2
      ⟨owners, howners, hauthorizes⟩⟩

theorem founding_deleted :
    ((twins "delete").modification (Profile.standard.deletingBy .allKeys) founding.document).outcome =
      .ok () := by
  refine twins_deleted founding_declares.created founding_declares.updated founding_declares.keys ?_
  intro owner howner
  obtain rfl := List.mem_singleton.1 howner
  exact ⟨_, List.mem_cons_self, twinSignature_vouches ""⟩

end Envelope

namespace History

/-- The deletion of the twins as submitted. -/
def twinDeletion : Step := ⟨Envelope.twinOrder "delete", Envelope.twinText⟩

/-- The key of the founding document has signed the deletion, so it is accepted under either policy. -/
theorem twinDeletion_by_all_or_one :
    ((Envelope.twins "delete").action = .ok .delete ∧
      ((Envelope.twins "delete").modification (Profile.standard.deletingBy .allKeys)
        Envelope.founding.document).outcome = .ok () ∧
      ((Envelope.twins "delete").modification (Profile.standard.deletingBy .anyKey)
        Envelope.founding.document).outcome = .ok ()) ∧
    Accepts (Profile.standard.deletingBy .allKeys) (after .standard none [foundingStep]) twinDeletion
      .delete ∧
    Accepts (Profile.standard.deletingBy .anyKey) (after .standard none [foundingStep]) twinDeletion
      .delete := by
  have haction : (Envelope.twins "delete").action = .ok .delete := by rfl
  have haccepts : Accepts (Profile.standard.deletingBy .allKeys)
      (after .standard none [foundingStep]) twinDeletion .delete := by
    rw [after_foundingStep]
    exact accepts_iff.2 ⟨_, Envelope.parse_twinDeletion, haction,
      .inr ⟨_, rfl, .inr rfl, Envelope.founding_deleted⟩⟩
  obtain ⟨hdeletion, hrun⟩ := deletion_by_all_or_one .standard
  obtain ⟨owners, howners, hcase⟩ := hdeletion _ _ haction Envelope.founding_deleted
  obtain rfl : Envelope.foundingParticulars.keys = owners :=
    Except.ok.inj (Envelope.founding_declares.keys.symm.trans howners)
  have hone := (hcase.resolve_right fun hnone => absurd hnone.1 (List.cons_ne_nil _ _)).2
  exact ⟨⟨haction, Envelope.founding_deleted, hone⟩, haccepts, hrun [foundingStep] twinDeletion haccepts⟩

/-- A deletion that is accepted where all owners must sign, and rejected where one suffices: the precursor
has no keys. -/
theorem keyless_deleted_by_all_only :
    (Envelope.parse (Envelope.twinOrder "delete") Envelope.twinText = .ok (Envelope.twins "delete") ∧
      Document.parse keylessText = .ok keyless) ∧
    (Envelope.twins "delete").action = .ok .delete ∧
    ((Envelope.twins "delete").modification (Profile.standard.deletingBy .allKeys)
      keyless).outcome = .ok () ∧
    ((Envelope.twins "delete").modification (Profile.standard.deletingBy .anyKey)
      keyless).outcome ≠ .ok () := by
  have haction : (Envelope.twins "delete").action = .ok .delete := by rfl
  have hall : ((Envelope.twins "delete").modification (Profile.standard.deletingBy .allKeys)
      keyless).outcome = .ok () :=
    Envelope.twins_deleted (by rfl) (by rfl) (by rfl : keyless.publicKeys = .ok [])
      (List.forall_mem_nil _)
  obtain ⟨owners, howners, hcase⟩ := Envelope.deletion_by_one haction hall
  obtain rfl : [] = owners := Except.ok.inj howners
  obtain ⟨-, hone⟩ := hcase.resolve_left fun hsome => hsome.1 rfl
  refine ⟨⟨Envelope.parse_twinDeletion, parse_keyless⟩, haction, hall, ?_⟩
  rw [hone]
  nofun

end History

end DidAdmission
