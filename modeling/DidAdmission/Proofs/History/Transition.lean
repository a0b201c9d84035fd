-- SUMMARY: What one step of a history can do, and the current document after a run.
import DidAdmission.Admission.History
import DidAdmission.Proofs.Admission.Acceptance

/-!
# Transitions

A step is refused and changes nothing, or it creates, updates or deletes the current document
(`Transition`). What holds along a run is derived from these four cases.
-/

namespace DidAdmission.History

/-! ## Accepted steps -/

/-- The step asks for the action and is accepted. -/
def Accepts (profile : Profile) (current : Option Document) (s : Step) (action : Action) : Prop :=
  (step profile current s).judgement.verdict = .accepted ∧
    ∃ e, Envelope.parse s.instruction s.document = .ok e ∧ e.action = .ok action

/-- A step asks for one action. -/
theorem Accepts.action_eq {profile : Profile} {current : Option Document} {s : Step} {a b : Action}
    (ha : Accepts profile current s a) (hb : Accepts profile current s b) : a = b := by
  obtain ⟨-, e, hparse, haction⟩ := ha
  obtain ⟨-, e', hparse', haction'⟩ := hb
  obtain rfl : e = e' := Except.ok.inj (hparse.symm.trans hparse')
  exact Except.ok.inj (haction.symm.trans haction')

/-- What a step makes of the current document. -/
inductive Transition (profile : Profile) (current : Option Document) (s : Step) :
    Option Document → Prop
  | refused (hverdict : (step profile current s).judgement.verdict ≠ .accepted) :
      Transition profile current s current
  | created (e : Envelope) (hparse : Envelope.parse s.instruction s.document = .ok e)
      (haccepts : Accepts profile current s .create)
      (houtcome : (e.creation profile).outcome = .ok ()) :
      Transition profile current s (some e.document)
  | updated (e : Envelope) (precursor : Document)
      (hparse : Envelope.parse s.instruction s.document = .ok e)
      (hcurrent : current = some precursor)
      (haccepts : Accepts profile current s .update)
      (houtcome : (e.modification profile precursor).outcome = .ok ()) :
      Transition profile current s (some e.document)
  | deleted (e : Envelope) (precursor : Document)
      (hparse : Envelope.parse s.instruction s.document = .ok e)
      (hcurrent : current = some precursor)
      (haccepts : Accepts profile current s .delete)
      (houtcome : (e.modification profile precursor).outcome = .ok ()) :
      Transition profile current s none

theorem verdict_ofLogged_eq_accepted_iff {x : Logged Unit} :
    (Judgement.ofLogged x).verdict = .accepted ↔ x.outcome = .ok () := by
  unfold Judgement.ofLogged
  split <;> simp_all

/-- A dispatched envelope is accepted as a creation, or as a change of a precursor that is there. -/
theorem verdict_dispatch_eq_accepted_iff {profile : Profile} {e : Envelope}
    {current : Option Document} :
    (Judgement.ofOption (e.dispatch profile current)).verdict = .accepted ↔
      (e.action = .ok .create ∧ (e.creation profile).outcome = .ok ()) ∨
      ∃ precursor, current = some precursor ∧ (e.action = .ok .update ∨ e.action = .ok .delete) ∧
        (e.modification profile precursor).outcome = .ok () := by
  unfold Envelope.dispatch
  cases haction : e.action with
  | error rejection =>
    simp [Judgement.ofOption, verdict_ofLogged_eq_accepted_iff, Logged.reject]
  | ok action =>
    cases action with
    | read => simp [Judgement.ofOption, verdict_ofLogged_eq_accepted_iff, Logged.reject]
    | create => simp [Judgement.ofOption, verdict_ofLogged_eq_accepted_iff]
    | update =>
      cases current <;> simp [Judgement.ofOption, verdict_ofLogged_eq_accepted_iff]
    | delete =>
      cases current <;> simp [Judgement.ofOption, verdict_ofLogged_eq_accepted_iff]

/-- A step whose texts can be read does what the dispatched envelope does. -/
theorem step_of_parse {profile : Profile} {current : Option Document} {s : Step} {e : Envelope}
    (hparse : Envelope.parse s.instruction s.document = .ok e) :
    step profile current s =
      let judgement := Judgement.ofOption (e.dispatch profile current)
      ⟨judgement, if judgement.verdict = .accepted then successor e else current⟩ := by
  rw [step, hparse]

/-- A step with an action is accepted when the check for that action accepts its envelope. -/
theorem accepts_iff {profile : Profile} {current : Option Document} {s : Step} {action : Action} :
    Accepts profile current s action ↔
      ∃ e, Envelope.parse s.instruction s.document = .ok e ∧ e.action = .ok action ∧
        ((action = .create ∧ (e.creation profile).outcome = .ok ()) ∨
          ∃ precursor, current = some precursor ∧ (action = .update ∨ action = .delete) ∧
            (e.modification profile precursor).outcome = .ok ()) := by
  constructor
  · rintro ⟨hverdict, e, hparse, haction⟩
    rw [step_of_parse hparse] at hverdict
    have hdispatch := verdict_dispatch_eq_accepted_iff.1 hverdict
    simp only [haction, Except.ok.injEq] at hdispatch
    exact ⟨e, hparse, haction, hdispatch⟩
  · rintro ⟨e, hparse, haction, hdispatch⟩
    refine ⟨?_, e, hparse, haction⟩
    rw [step_of_parse hparse]
    apply verdict_dispatch_eq_accepted_iff.2
    simpa only [haction, Except.ok.injEq] using hdispatch

/-- An accepted step makes the successor of its envelope current. -/
theorem step_current_of_accepts {profile : Profile} {current : Option Document} {s : Step}
    {action : Action} {e : Envelope} (h : Accepts profile current s action)
    (hparse : Envelope.parse s.instruction s.document = .ok e) :
    (step profile current s).current = successor e := by
  have hverdict := h.1
  rw [step_of_parse hparse] at hverdict ⊢
  exact if_pos hverdict

theorem step_transition (profile : Profile) (current : Option Document) (s : Step) :
    Transition profile current s (step profile current s).current := by
  by_cases hverdict : (step profile current s).judgement.verdict = .accepted
  · cases hparse : Envelope.parse s.instruction s.document with
    | error rejection => simp [step, hparse, Judgement.unread] at hverdict
    | ok e =>
      have hdispatch : (Judgement.ofOption (e.dispatch profile current)).verdict = .accepted := by
        rwa [step_of_parse hparse] at hverdict
      rcases verdict_dispatch_eq_accepted_iff.1 hdispatch with
        ⟨haction, houtcome⟩ | ⟨precursor, hprecursor, haction | haction, houtcome⟩
      · have haccepts : Accepts profile current s .create := ⟨hverdict, e, hparse, haction⟩
        rw [step_current_of_accepts haccepts hparse, successor, haction]
        exact .created e hparse haccepts houtcome
      · have haccepts : Accepts profile current s .update := ⟨hverdict, e, hparse, haction⟩
        rw [step_current_of_accepts haccepts hparse, successor, haction]
        exact .updated e precursor hparse hprecursor haccepts houtcome
      · have haccepts : Accepts profile current s .delete := ⟨hverdict, e, hparse, haction⟩
        rw [step_current_of_accepts haccepts hparse, successor, haction]
        exact .deleted e precursor hparse hprecursor haccepts houtcome
  · have hcurrent : (step profile current s).current = current := by
      cases hparse : Envelope.parse s.instruction s.document with
      | error rejection => rw [step, hparse]
      | ok e =>
        rw [step_of_parse hparse] at hverdict ⊢
        exact if_neg hverdict
    rw [hcurrent]
    exact .refused hverdict

/-- A step that is accepted asks for an action. -/
theorem exists_accepts {profile : Profile} {current : Option Document} {s : Step}
    (h : (step profile current s).judgement.verdict = .accepted) :
    ∃ action, Accepts profile current s action := by
  have htransition := step_transition profile current s
  generalize (step profile current s).current = next at htransition
  cases htransition with
  | refused hverdict => exact absurd h hverdict
  | created e hparse haccepts houtcome => exact ⟨_, haccepts⟩
  | updated e precursor hparse hcurrent haccepts houtcome => exact ⟨_, haccepts⟩
  | deleted e precursor hparse hcurrent haccepts houtcome => exact ⟨_, haccepts⟩

/-! ## Runs -/

/-- The current document after steps taken one after another. -/
def after (profile : Profile) (current : Option Document) (steps : List Step) : Option Document :=
  steps.foldl (fun current s => (step profile current s).current) current

@[simp] theorem after_nil (profile : Profile) (current : Option Document) :
    after profile current [] = current := rfl

@[simp] theorem after_cons (profile : Profile) (current : Option Document) (s : Step)
    (rest : List Step) :
    after profile current (s :: rest) = after profile (step profile current s).current rest := rfl

@[simp] theorem after_append (profile : Profile) (current : Option Document)
    (past rest : List Step) :
    after profile current (past ++ rest) = after profile (after profile current past) rest :=
  List.foldl_append

/-- A run goes on from the current document after its first steps. -/
theorem run_append (profile : Profile) (current : Option Document) (past rest : List Step) :
    run profile current (past ++ rest) =
      run profile current past ++ run profile (after profile current past) rest := by
  induction past generalizing current with
  | nil => rfl
  | cons s past ih => simp [run, ih]

/-! ## Two steps -/

/-- The founding step as submitted. -/
def foundingStep : Step := ⟨Envelope.foundingOrder, Envelope.foundingText⟩

/-- The updating step as submitted. -/
def movingStep : Step := ⟨Envelope.movingOrder, Envelope.movingText⟩

/-- Founding is accepted whatever document is current. -/
theorem foundingStep_accepts (current : Option Document) :
    Accepts .standard current foundingStep .create :=
  accepts_iff.2 ⟨.founding, Envelope.parse_founding, by rfl, .inl ⟨rfl, Envelope.founding_accepted⟩⟩

theorem movingStep_accepts :
    Accepts .standard (some Envelope.founding.document) movingStep .update :=
  accepts_iff.2 ⟨.moving, Envelope.parse_moving, by rfl,
    .inr ⟨_, rfl, .inl rfl, Envelope.moving_accepted⟩⟩

end DidAdmission.History
