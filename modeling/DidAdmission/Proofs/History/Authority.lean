-- SUMMARY: Who authorizes what becomes of a document: its owners, except for a creation in its place.
import DidAdmission.Proofs.History.Subject

/-!
# Authority

A change is authorized by the keys of its precursor, all of them or one of them, and in a run there
always is one. Two things are not: a change of a document without keys, which a run never has, and a
creation, which looks at no document and may take the place of one.
-/

namespace DidAdmission

/-! ## One change -/

section

variable {profile : Profile} {action : Action} {message : Bytes} {signatures : List Signature}
  {owners : List PublicKey}

theorem Authorizes.all_signed (hpolicy : profile.deletion = .allKeys)
    (h : Authorizes profile action message signatures owners) :
    ∀ owner ∈ owners, owner.HasSigned message signatures := by
  rwa [Authorizes, if_neg (by simp [hpolicy])] at h

/-- Some owner has signed, unless there is none and all would have to. -/
theorem Authorizes.some_signed (h : Authorizes profile action message signatures owners) :
    (∃ owner ∈ owners, owner.HasSigned message signatures) ∨
      (owners = [] ∧ ¬ (action = .delete ∧ profile.deletion = .anyKey)) := by
  unfold Authorizes at h
  split at h
  · exact .inl h
  · next hall =>
    cases owners with
    | nil => exact .inr ⟨rfl, hall⟩
    | cons owner rest => exact .inl ⟨owner, List.mem_cons_self, h owner List.mem_cons_self⟩

end

/-- Signatures cover the document text as submitted. -/
theorem Envelope.bytes_of_parse {instruction document : String} {e : Envelope}
    (h : parse instruction document = .ok e) : e.document.bytes = Bytes.ofText document :=
  Document.bytes_of_parse (parse_eq_ok_iff.1 h).2

namespace History

/-! ## Runs -/

/-- A creation does what it does whatever document is current. -/
theorem step_eq_of_creates {profile : Profile} {current : Option Document} {s : Step}
    (haccepts : Accepts profile current s .create) (other : Option Document) :
    step profile other s = step profile current s := by
  obtain ⟨hverdict, e, hparse, haction⟩ := haccepts
  have hdispatch : e.dispatch profile other = e.dispatch profile current := by
    rw [Envelope.dispatch, Envelope.dispatch, haction]
  rw [step_of_parse hparse] at hverdict
  rw [step_of_parse hparse, step_of_parse hparse, hdispatch]
  simp only [if_pos hverdict]

/-- What authorizes a step of a run that does not create: the keys of the current document, of which
there is at least one. -/
theorem change_authorized {profile : Profile} {past : List Step} {s : Step} {action : Action}
    (haccepts : Accepts profile (after profile none past) s action) (hchange : action ≠ .create) :
    ∃ e current signatures owners,
      Envelope.parse s.instruction s.document = .ok e ∧
      after profile none past = some current ∧ e.instruction.signatures = .ok signatures ∧
      current.publicKeys = .ok owners ∧ owners ≠ [] ∧
      Authorizes profile action (Bytes.ofText s.document) signatures owners := by
  obtain ⟨e, hparse, haction, hcase⟩ := accepts_iff.1 haccepts
  obtain ⟨current, hcurrent, -, houtcome⟩ := hcase.resolve_left fun h => hchange h.1
  obtain ⟨action', p, owners, ⟨haction', -⟩, hp, -, howners, hauthorizes⟩ :=
    Envelope.modification_authorized houtcome
  obtain rfl : action = action' := Except.ok.inj (haction.symm.trans haction')
  obtain ⟨name, owners', hsound⟩ := after_none_sound profile past current hcurrent
  obtain rfl : owners = owners' := Except.ok.inj (howners.symm.trans hsound.keys)
  rw [Envelope.bytes_of_parse hparse] at hauthorizes
  exact ⟨e, current, p.signatures, owners, hparse, hcurrent, hp.signatures, howners,
    hsound.someKey, hauthorizes⟩

/-- Where a document is current and all its keys must sign, a step that is accepted is signed by all of
them, or it is a creation, which does the same whatever document is current. -/
theorem accepted_step_signed_by_owners {profile : Profile} (hpolicy : profile.deletion = .allKeys)
    {past : List Step} {s : Step} {current : Document}
    (hcurrent : after profile none past = some current)
    (haccepted : (step profile (some current) s).judgement.verdict = .accepted) :
    ∃ e, Envelope.parse s.instruction s.document = .ok e ∧
      ((e.action = .ok .create ∧ ∀ other, step profile other s = step profile (some current) s) ∨
       ∃ signatures owners, e.instruction.signatures = .ok signatures ∧
         current.publicKeys = .ok owners ∧ owners ≠ [] ∧
         ∀ owner ∈ owners, owner.HasSigned (Bytes.ofText s.document) signatures) := by
  obtain ⟨action, haccepts⟩ := exists_accepts haccepted
  by_cases hcreate : action = .create
  · subst hcreate
    obtain ⟨-, e, hparse, haction⟩ := haccepts
    exact ⟨e, hparse, .inl ⟨haction, step_eq_of_creates ⟨haccepted, e, hparse, haction⟩⟩⟩
  · rw [← hcurrent] at haccepts
    obtain ⟨e, current', signatures, owners, hparse, hcurrent', hsignatures, howners, hsome,
      hauthorizes⟩ := change_authorized haccepts hcreate
    obtain rfl : current = current' := Option.some.inj (hcurrent.symm.trans hcurrent')
    exact ⟨e, hparse, .inr ⟨signatures, owners, hsignatures, howners, hsome,
      hauthorizes.all_signed hpolicy⟩⟩

/-- The update of the founded document is no creation, so its owner has signed. -/
theorem movingStep_signed_by_all :
    Profile.standard.deletion = .allKeys ∧
    after .standard none [foundingStep] = some Envelope.founding.document ∧
    (step .standard (some Envelope.founding.document) movingStep).judgement.verdict = .accepted ∧
    ∃ signatures owners, Envelope.moving.instruction.signatures = .ok signatures ∧
      Envelope.founding.document.publicKeys = .ok owners ∧ owners ≠ [] ∧
      ∀ owner ∈ owners, owner.HasSigned (Bytes.ofText movingStep.document) signatures := by
  have haccepted := movingStep_accepts.1
  obtain ⟨e, hparse, hcase⟩ :=
    accepted_step_signed_by_owners (by rfl) after_foundingStep haccepted
  obtain rfl : Envelope.moving = e := Except.ok.inj (Envelope.parse_moving.symm.trans hparse)
  have hupdate : Envelope.moving.action = .ok .update := by rfl
  exact ⟨rfl, after_foundingStep, haccepted, hcase.resolve_left (by simp [hupdate])⟩

/-- A creation takes the place of the current document, whose key has not signed. -/
theorem foundingStep_replaces_moved :
    Profile.standard.deletion = .allKeys ∧
    after .standard none [foundingStep, movingStep] = some Envelope.moving.document ∧
    (step .standard (some Envelope.moving.document) foundingStep).judgement.verdict = .accepted ∧
    Envelope.parse foundingStep.instruction foundingStep.document = .ok .founding ∧
    ∃ signatures owner, Envelope.founding.instruction.signatures = .ok signatures ∧
      Envelope.moving.document.publicKeys = .ok [owner] ∧
      ¬ owner.HasSigned (Bytes.ofText foundingStep.document) signatures := by
  refine ⟨rfl, after_movingStep, (foundingStep_accepts _).1, Envelope.parse_founding,
    _, _, Envelope.founding_declares.signatures, Envelope.moving_declares.keys, ?_⟩
  rintro ⟨signature, hmem, hvouches⟩
  obtain rfl := List.mem_singleton.1 hmem
  exact absurd hvouches.target (by decide +kernel)

/-- A change that is accepted is signed by a key of its precursor, unless the precursor has no keys and
all of them had to sign. In a run that starts without a document, the current document has keys, so one
of them has signed every step that does not create. -/
theorem change_signed_by_owner (profile : Profile) :
    (∀ (e : Envelope) (precursor : Document), (e.modification profile precursor).outcome = .ok () →
      ∃ action signatures owners,
        e.action = .ok action ∧ e.instruction.signatures = .ok signatures ∧
        precursor.publicKeys = .ok owners ∧
        ((∃ owner ∈ owners, owner.HasSigned e.document.bytes signatures) ∨
         (owners = [] ∧ ¬ (action = .delete ∧ profile.deletion = .anyKey)))) ∧
    ∀ (past : List Step) (s : Step) (action : Action),
      Accepts profile (after profile none past) s action → action ≠ .create →
      ∃ e current signatures owners,
        Envelope.parse s.instruction s.document = .ok e ∧
        after profile none past = some current ∧ e.instruction.signatures = .ok signatures ∧
        current.publicKeys = .ok owners ∧
        ∃ owner ∈ owners, owner.HasSigned (Bytes.ofText s.document) signatures := by
  constructor
  · intro e precursor houtcome
    obtain ⟨action, p, owners, ⟨haction, -⟩, hp, -, howners, hauthorizes⟩ :=
      Envelope.modification_authorized houtcome
    exact ⟨action, p.signatures, owners, haction, hp.signatures, howners, hauthorizes.some_signed⟩
  · intro past s action haccepts hchange
    obtain ⟨e, current, signatures, owners, hparse, hcurrent, hsignatures, howners, hsome,
      hauthorizes⟩ := change_authorized haccepts hchange
    exact ⟨e, current, signatures, owners, hparse, hcurrent, hsignatures, howners,
      hauthorizes.some_signed.resolve_right fun h => hsome h.1⟩

/-- The founded document is the precursor of the update that moves it, and its key has signed. -/
theorem movingStep_signed_by_one :
    (∃ signatures owner, Envelope.moving.instruction.signatures = .ok signatures ∧
      Envelope.founding.document.publicKeys = .ok [owner] ∧
      owner.HasSigned Envelope.moving.document.bytes signatures) ∧
    Accepts .standard (after .standard none [foundingStep]) movingStep .update ∧
    ∃ e current signatures owners,
      Envelope.parse movingStep.instruction movingStep.document = .ok e ∧
      after .standard none [foundingStep] = some current ∧
      e.instruction.signatures = .ok signatures ∧ current.publicKeys = .ok owners ∧
      ∃ owner ∈ owners, owner.HasSigned (Bytes.ofText movingStep.document) signatures := by
  have haccepts : Accepts .standard (after .standard none [foundingStep]) movingStep .update := by
    rw [after_foundingStep]
    exact movingStep_accepts
  obtain ⟨hchange, hrun⟩ := change_signed_by_owner .standard
  refine ⟨?_, haccepts, hrun [foundingStep] movingStep .update haccepts (by simp)⟩
  obtain ⟨action, signatures, owners, -, hsignatures, howners, hcase⟩ :=
    hchange _ _ Envelope.moving_accepted
  obtain rfl : Envelope.foundingParticulars.keys = owners :=
    Except.ok.inj (Envelope.founding_declares.keys.symm.trans howners)
  obtain ⟨owner, howner, hsigned⟩ := hcase.resolve_right (by simp [Envelope.foundingParticulars])
  obtain rfl := List.mem_singleton.1 howner
  exact ⟨signatures, _, hsignatures, howners, hsigned⟩

/-! ## A precursor without keys -/

def keylessText : String :=
  "\x7b\"@context\":\"x\",\"id\":\"did:a:net:00000000-0000-0000-0000-000000000002\",\"publicKey\":[]\x7d"

def keyless : Document where
  submission.text := keylessText
  submission.object :=
    [("@context", .text "x"), ("id", .text "did:a:net:00000000-0000-0000-0000-000000000002"),
     ("publicKey", .array [])]

set_option maxRecDepth 20000 in
theorem parse_keyless : Document.parse keylessText = .ok keyless := by
  have htext : Json.read keylessText = .ok (.object keyless.submission.object) := by
    unfold Json.read keylessText
    rw [String.toList_ofList]
    rfl
  exact Document.parse_of_read htext

/-- An update that is accepted from a document without keys, none of which has signed. -/
theorem keyless_changed_by_anyone :
    Document.parse keylessText = .ok keyless ∧
      (Envelope.moving.modification .standard keyless).outcome = .ok () ∧
      ∃ signatures owners, Envelope.moving.instruction.signatures = .ok signatures ∧
        keyless.publicKeys = .ok owners ∧
        ¬ ∃ owner ∈ owners, owner.HasSigned Envelope.moving.document.bytes signatures := by
  have hkeys : keyless.publicKeys = .ok [] := by rfl
  obtain ⟨action, signatures, haction, hbase, -⟩ :=
    Envelope.outcome_modification_eq_ok_iff.1 Envelope.moving_accepted
  obtain ⟨p, hp, hadmissible, rfl⟩ := Envelope.outcome_checkBase_eq_ok_iff.1 hbase
  have hsuccession : Check.succession Envelope.moving.document keyless = .ok () :=
    toOption_eq_some_iff.1 (by decide +kernel)
  have hauthorizes :
      Authorizes .standard action Envelope.moving.document.bytes p.signatures [] := by
    rw [Authorizes, if_neg fun h => absurd h.2 (by decide)]
    exact fun owner howner => absurd howner List.not_mem_nil
  have houtcome : (Envelope.moving.modification .standard keyless).outcome = .ok () :=
    Envelope.outcome_modification_eq_ok_iff.2 ⟨action, p.signatures, haction, hbase, hsuccession,
      (Check.outcome_ownership_eq_ok_iff hadmissible.targets).2 ⟨[], hkeys, hauthorizes⟩⟩
  exact ⟨parse_keyless, houtcome, p.signatures, [], hp.signatures, hkeys, by simp⟩

end History

end DidAdmission
