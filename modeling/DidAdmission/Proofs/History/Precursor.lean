-- SUMMARY: No step of a run is refused because its precursor cannot be read.
import DidAdmission.Proofs.Admission.Rejections
import DidAdmission.Proofs.History.Subject

/-!
# Precursors in a run

Only the clauses about a precursor report that it is malformed, and all they read of it is what a sound
document has. The current document of a run is sound, so no step is rejected for that.
-/

namespace DidAdmission

/-! ## One envelope -/

/-- A precursor is malformed when its times or its keys cannot be read. -/
theorem Envelope.Violates.precursor_unreadable {profile : Profile} {e : Envelope}
    {precursor : Option Document} {c : Clause} {failure : ReadFailure}
    (h : e.Violates profile precursor c (.malformedPrecursor failure)) :
    ∃ d, precursor = some d ∧
      (d.created = .error failure ∨ d.updated = .error failure ∨ d.publicKeys = .error failure) := by
  cases c with
  | precursorCreated =>
    obtain ⟨d, _, hprecursor, hcreated, hreport⟩ := h
    exact ⟨d, hprecursor, .inl (Rejection.malformedPrecursor.inj hreport ▸ hcreated)⟩
  | precursorUpdated =>
    obtain ⟨d, _, hprecursor, hupdated, hreport⟩ := h
    exact ⟨d, hprecursor, .inr (.inl (Rejection.malformedPrecursor.inj hreport ▸ hupdated))⟩
  | precursorKeys =>
    obtain ⟨d, _, hprecursor, hkeys, hreport⟩ := h
    rw [← Document.publicKeys_eq_error_iff] at hkeys
    exact ⟨d, hprecursor, .inr (.inr (Rejection.malformedPrecursor.inj hreport ▸ hkeys))⟩
  | ownership =>
    obtain ⟨d, action, owners, signatures, -, -, -, -, hreport⟩ := h
    split at hreport
    · cases hreport.2
    · obtain ⟨owner, -, hshortfall⟩ := hreport
      cases hshortfall
  | _ => simp [Violates] at h

/-- A creation has no precursor that could be malformed. -/
theorem Envelope.creation_ne_malformedPrecursor {profile : Profile} {e : Envelope}
    {failure : ReadFailure} (haction : e.action = .ok .create) :
    (e.creation profile).outcome ≠ .error (.malformedPrecursor failure) := by
  intro h
  obtain ⟨c, -, hc⟩ := (creation_reports haction _).1 h
  obtain ⟨d, hnone, -⟩ := hc.precursor_unreadable
  cases hnone

/-- A sound precursor is not malformed. -/
theorem Document.Sound.modification_ne_malformedPrecursor {profile : Profile} {d : Document}
    {name : Identifier} {owners : List PublicKey} (hsound : d.Sound profile name owners)
    {e : Envelope} {failure : ReadFailure}
    (haction : e.action = .ok .update ∨ e.action = .ok .delete) :
    (e.modification profile d).outcome ≠ .error (.malformedPrecursor failure) := by
  intro h
  obtain ⟨c, -, hc⟩ := (Envelope.modification_reports haction _).1 h
  obtain ⟨d', hd', hunreadable⟩ := hc.precursor_unreadable
  obtain rfl := Option.some.inj hd'
  obtain ⟨created, hcreated⟩ := hsound.created
  obtain ⟨updated, hupdated⟩ := hsound.updated
  simp [hcreated, hupdated, hsound.keys] at hunreadable

/-- What the action of an envelope is refused for does not concern a precursor. -/
theorem Envelope.action_ne_malformedPrecursor {e : Envelope} {failure : ReadFailure} :
    e.action ≠ .error (.malformedPrecursor failure) := by
  unfold action
  split <;> simp

theorem Envelope.parse_ne_malformedPrecursor {instruction document : String}
    {failure : ReadFailure} : parse instruction document ≠ .error (.malformedPrecursor failure) := by
  simp [parse, bind_eq_error_iff, mapError_eq_error_iff]

namespace History

/-! ## One step -/

/-- A step is rejected when its texts cannot be read or its action is refused, or by the check for its
action. -/
theorem step_rejected {profile : Profile} {current : Option Document} {s : Step} {r : Rejection}
    (h : (step profile current s).judgement.verdict = .rejected r) :
    Envelope.parse s.instruction s.document = .error r ∨
    ∃ e, Envelope.parse s.instruction s.document = .ok e ∧
      (e.action = .error r ∨
       (e.action = .ok .read ∧ r = Envelope.illegalAction .read "create, update or delete") ∨
       (e.action = .ok .create ∧ (e.creation profile).outcome = .error r) ∨
       ∃ d, current = some d ∧ (e.action = .ok .update ∨ e.action = .ok .delete) ∧
         (e.modification profile d).outcome = .error r) := by
  cases hparse : Envelope.parse s.instruction s.document with
  | error rejection =>
    rw [step, hparse] at h
    exact .inl (congrArg _ (Verdict.rejected.inj h))
  | ok e =>
    rw [step_of_parse hparse] at h
    refine .inr ⟨e, rfl, ?_⟩
    cases haction : e.action with
    | error rejection =>
      simp only [Envelope.dispatch, haction, Judgement.ofOption,
        Judgement.verdict_ofLogged_eq_rejected_iff, Logged.outcome_reported] at h
      exact .inl (congrArg _ (Except.error.inj h))
    | ok action =>
      cases action with
      | read =>
        simp only [Envelope.dispatch, haction, Judgement.ofOption,
          Judgement.verdict_ofLogged_eq_rejected_iff, Logged.outcome_reported] at h
        exact .inr (.inl ⟨rfl, (Except.error.inj h).symm⟩)
      | create =>
        simp only [Envelope.dispatch, haction, Judgement.ofOption,
          Judgement.verdict_ofLogged_eq_rejected_iff] at h
        exact .inr (.inr (.inl ⟨rfl, h⟩))
      | update =>
        cases current with
        | none => simp [Envelope.dispatch, haction, Judgement.ofOption] at h
        | some d =>
          simp only [Envelope.dispatch, haction, Option.map_some, Judgement.ofOption,
            Judgement.verdict_ofLogged_eq_rejected_iff] at h
          exact .inr (.inr (.inr ⟨d, rfl, .inl rfl, h⟩))
      | delete =>
        cases current with
        | none => simp [Envelope.dispatch, haction, Judgement.ofOption] at h
        | some d =>
          simp only [Envelope.dispatch, haction, Option.map_some, Judgement.ofOption,
            Judgement.verdict_ofLogged_eq_rejected_iff] at h
          exact .inr (.inr (.inr ⟨d, rfl, .inr rfl, h⟩))

/-- From a sound document, or none, no step is rejected for a malformed precursor. -/
theorem step_ne_malformedPrecursor {profile : Profile} {current : Option Document} {s : Step}
    (hsound : CurrentSound profile current) (failure : ReadFailure) :
    (step profile current s).judgement.verdict ≠ .rejected (.malformedPrecursor failure) := by
  intro h
  rcases step_rejected h with hparse | ⟨e, -, haction | ⟨-, hread⟩ | ⟨haction, houtcome⟩ | hchange⟩
  · exact Envelope.parse_ne_malformedPrecursor hparse
  · exact Envelope.action_ne_malformedPrecursor haction
  · cases hread
  · exact Envelope.creation_ne_malformedPrecursor haction houtcome
  · obtain ⟨d, hd, haction, houtcome⟩ := hchange
    obtain ⟨name, owners, hd⟩ := hsound d hd
    exact hd.modification_ne_malformedPrecursor haction houtcome

/-! ## Runs -/

/-- The reports of a run are those of its steps, each from the document that is current then. -/
theorem mem_run_iff {profile : Profile} {current : Option Document} {steps : List Step}
    {report : Report} :
    report ∈ run profile current steps ↔
      ∃ past s rest, steps = past ++ s :: rest ∧
        report = step profile (after profile current past) s := by
  constructor
  · intro hmem
    induction steps generalizing current with
    | nil => cases hmem
    | cons s rest ih =>
      rcases List.mem_cons.1 hmem with rfl | hmem
      · exact ⟨[], s, rest, rfl, rfl⟩
      · obtain ⟨past, t, later, rfl, rfl⟩ := ih hmem
        exact ⟨s :: past, t, later, rfl, rfl⟩
  · rintro ⟨past, s, rest, rfl, rfl⟩
    rw [run_append, run]
    exact List.mem_append_right _ List.mem_cons_self

/-- In a run that starts without a document, the current document is sound after every step, and no
step is rejected for a malformed precursor. -/
theorem run_stays_sound (profile : Profile) (steps : List Step) :
    ∀ report ∈ run profile none steps,
      (∀ d, report.current = some d → ∃ name owners, d.Sound profile name owners) ∧
      ∀ failure, report.judgement.verdict ≠ .rejected (.malformedPrecursor failure) := by
  intro report hreport
  obtain ⟨past, s, rest, rfl, rfl⟩ := mem_run_iff.1 hreport
  have hsound := after_none_sound profile past
  exact ⟨step_sound s hsound, step_ne_malformedPrecursor hsound⟩

/-- The moved document is sound, and its precursor was read. -/
theorem movingStep_stays_sound :
    ∃ report ∈ run .standard none [foundingStep, movingStep],
      report.current = some Envelope.moving.document ∧
      (∃ name owners, Envelope.moving.document.Sound .standard name owners) ∧
      ∀ failure, report.judgement.verdict ≠ .rejected (.malformedPrecursor failure) := by
  have hmem : step .standard (after .standard none [foundingStep]) movingStep ∈
      run .standard none [foundingStep, movingStep] :=
    mem_run_iff.2 ⟨[foundingStep], movingStep, [], rfl, rfl⟩
  obtain ⟨hsound, hread⟩ := run_stays_sound .standard [foundingStep, movingStep] _ hmem
  exact ⟨_, hmem, movingStep_current, hsound _ movingStep_current, hread⟩

end History

end DidAdmission
