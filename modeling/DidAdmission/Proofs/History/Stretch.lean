-- SUMMARY: Between creations and deletions: one creation time, rising update times, no replays.
import DidAdmission.Proofs.History.Transition
import DidAdmission.Proofs.Timestamp.Order

/-!
# Stretches

As long as no document is created or deleted, each current document continues the ones before it
(`Document.Continues`): it has their creation time, and its update time is not before theirs. An
update that was accepted once is therefore out of order ever after.
-/

namespace DidAdmission

/-! ## One change -/

/-- The creation time is the older document's, and the update time is not before the older one's. -/
structure Document.Continues (older newer : Document) : Prop where
  created : newer.created = older.created
  updated : ∀ u, older.updated = .ok (some u) →
    ∃ v, newer.updated = .ok (some v) ∧ (u = v ∨ u.before v = true)

theorem Document.Continues.refl (d : Document) : d.Continues d :=
  ⟨rfl, fun u hu => ⟨u, hu, .inl rfl⟩⟩

theorem Document.Continues.trans {a b c : Document} (hab : a.Continues b) (hbc : b.Continues c) :
    a.Continues c := by
  refine ⟨hbc.created.trans hab.created, fun u hu => ?_⟩
  obtain ⟨v, hv, huv⟩ := hab.updated u hu
  obtain ⟨w, hw, hvw⟩ := hbc.updated v hv
  refine ⟨w, hw, ?_⟩
  rcases huv with rfl | huv
  · exact hvw
  · rcases hvw with rfl | hvw
    · exact .inr huv
    · exact .inr (Timestamp.before_trans huv hvw)

/-- An accepted change has an update time, and it is later than the precursor's. -/
theorem Envelope.modification_advances {profile : Profile} {e : Envelope} {precursor : Document}
    (h : (e.modification profile precursor).outcome = .ok ()) :
    e.document.created = precursor.created ∧
      ∃ u, e.document.updated = .ok (some u) ∧
        ∀ t, precursor.updated = .ok (some t) → t.before u = true := by
  obtain ⟨action, signatures, -, hbase, hsuccession, -⟩ := outcome_modification_eq_ok_iff.1 h
  obtain ⟨p, hp, -, -⟩ := outcome_checkBase_eq_ok_iff.1 hbase
  obtain ⟨hcreated, u, previous, hu, hprevious, hlater⟩ :=
    (Check.succession_eq_ok_iff hp.created hp.updated).1 hsuccession
  refine ⟨hp.created.trans hcreated.symm, u, hu ▸ hp.updated, fun t ht => hlater t ?_⟩
  rw [hprevious] at ht
  exact Except.ok.inj ht

theorem Envelope.modification_continues {profile : Profile} {e : Envelope} {precursor : Document}
    (h : (e.modification profile precursor).outcome = .ok ()) : precursor.Continues e.document := by
  obtain ⟨hcreated, u, hu, hlater⟩ := modification_advances h
  exact ⟨hcreated, fun t ht => ⟨u, hu, .inr (hlater t ht)⟩⟩

/-- An update time that is not later than the precursor's is out of order. -/
theorem Check.succession_eq_temporalOrder {document precursor : Document} {u v : Timestamp}
    {created : Option Timestamp} (hcreated : document.created = .ok created)
    (hbefore : precursor.created = .ok created) (hu : document.updated = .ok (some u))
    (hv : precursor.updated = .ok (some v)) (hlate : v.before u = false) :
    succession document precursor = .error .temporalOrder := by
  simp [succession, hcreated, hbefore, hu, hv, hlate]

/-- A change that was accepted once is out of order for every document that continues it. -/
theorem Envelope.modification_replayed {profile : Profile} {e : Envelope}
    {precursor current : Document} (h : (e.modification profile precursor).outcome = .ok ())
    (hcontinues : e.document.Continues current) :
    (e.modification profile current).outcome = .error .temporalOrder := by
  obtain ⟨action, signatures, haction, hbase, -, -⟩ := outcome_modification_eq_ok_iff.1 h
  obtain ⟨p, hp, -, -⟩ := outcome_checkBase_eq_ok_iff.1 hbase
  obtain ⟨-, u, hu, -⟩ := modification_advances h
  obtain ⟨v, hv, huv⟩ := hcontinues.updated u hu
  have hlate : v.before u = false := by
    rcases huv with rfl | huv
    · exact Timestamp.before_irrefl u
    · exact Timestamp.before_asymm huv
  have hsuccession : Check.succession e.document current = .error .temporalOrder :=
    Check.succession_eq_temporalOrder hp.created (hcontinues.created.trans hp.created) hu hv hlate
  -- The stages before the succession do not look at the precursor, so they accept again.
  simp only [modification, Logged.outcome_reported, Logged.outcome_bind, Logged.outcome_ofExcept,
    changingAction_eq_ok_iff.2 haction, hbase, hsuccession, ok_bind, error_bind]

namespace History

/-! ## Stretches of a run -/

/-- No document is created or deleted in the stretch. -/
def Steady (profile : Profile) (start : Option Document) (stretch : List Step) : Prop :=
  ∀ past s rest, stretch = past ++ s :: rest →
    ¬ Accepts profile (after profile start past) s .create ∧
      ¬ Accepts profile (after profile start past) s .delete

/-- The document is current at the start of the stretch or after some of its steps. -/
def CurrentIn (profile : Profile) (start : Option Document) (stretch : List Step) (d : Document) :
    Prop :=
  ∃ past rest, stretch = past ++ rest ∧ after profile start past = some d

theorem Steady.of_append {profile : Profile} {start : Option Document} {past rest : List Step}
    (h : Steady profile start (past ++ rest)) :
    Steady profile start past ∧ Steady profile (after profile start past) rest := by
  constructor
  · rintro a s b rfl
    exact h a s (b ++ rest) (by simp)
  · rintro a s b rfl
    have hlater := h (past ++ a) s b (by simp)
    rwa [after_append] at hlater

theorem Steady.tail {profile : Profile} {start : Option Document} {s : Step} {rest : List Step}
    (h : Steady profile start (s :: rest)) :
    Steady profile (step profile start s).current rest := by
  intro past t later hrest
  exact h (s :: past) t later (congrArg (s :: ·) hrest)

/-- A step of a stretch leaves the current document or updates it. -/
theorem Steady.step_current {profile : Profile} {start : Option Document} {s : Step}
    {rest : List Step} (h : Steady profile start (s :: rest)) :
    (step profile start s).current = start ∨
      ∃ (e : Envelope) (precursor : Document), start = some precursor ∧
        (step profile start s).current = some e.document ∧
        (e.modification profile precursor).outcome = .ok () := by
  obtain ⟨hcreate, hdelete⟩ := h [] s rest rfl
  generalize hnext : (step profile start s).current = next
  cases hnext ▸ step_transition profile start s with
  | refused hverdict => exact .inl rfl
  | created e hparse haccepts houtcome => exact absurd haccepts hcreate
  | updated e precursor hparse hcurrent haccepts houtcome =>
    exact .inr ⟨e, precursor, hcurrent, rfl, houtcome⟩
  | deleted e precursor hparse hcurrent haccepts houtcome => exact absurd haccepts hdelete

/-- Without a document there is nothing to update. -/
theorem Steady.after_none {profile : Profile} {stretch : List Step}
    (h : Steady profile none stretch) : after profile none stretch = none := by
  induction stretch with
  | nil => rfl
  | cons s rest ih =>
    have hnone : (step profile none s).current = none := by
      rcases h.step_current with hsame | ⟨e, precursor, hcurrent, -⟩
      · exact hsame
      · cases hcurrent
    rw [after_cons, hnone]
    exact ih (hnone ▸ h.tail)

/-- The document at the end of a stretch continues the one at its start. -/
theorem Steady.after_some {profile : Profile} {d : Document} {stretch : List Step}
    (h : Steady profile (some d) stretch) :
    ∃ d', after profile (some d) stretch = some d' ∧ d.Continues d' := by
  induction stretch generalizing d with
  | nil => exact ⟨d, rfl, .refl d⟩
  | cons s rest ih =>
    have hrest := h.tail
    rw [after_cons]
    rcases h.step_current with hsame | ⟨e, precursor, hcurrent, hnext, haccepted⟩
    · rw [hsame] at hrest ⊢
      exact ih hrest
    · obtain rfl := Option.some.inj hcurrent
      rw [hnext] at hrest ⊢
      obtain ⟨d', hd', hcontinues⟩ := ih hrest
      exact ⟨d', hd', (Envelope.modification_continues haccepted).trans hcontinues⟩

/-- Every current document of a stretch has the creation time of the one at its start. -/
theorem Steady.created_eq {profile : Profile} {start : Option Document} {stretch : List Step}
    {d : Document} (h : Steady profile start stretch) (hd : CurrentIn profile start stretch d) :
    ∃ first, start = some first ∧ d.created = first.created := by
  obtain ⟨past, rest, rfl, hafter⟩ := hd
  have hpast := h.of_append.1
  cases start with
  | none =>
    rw [hpast.after_none] at hafter
    cases hafter
  | some first =>
    obtain ⟨d', hd', hcontinues⟩ := hpast.after_some
    obtain rfl : d' = d := Option.some.inj (hd'.symm.trans hafter)
    exact ⟨first, rfl, hcontinues.created⟩

/-- What an accepted update submits is continued by every later current document of the stretch. -/
theorem Steady.after_update {profile : Profile} {start : Option Document} {past between : List Step}
    {s : Step} {rest : List Step} (h : Steady profile start (past ++ s :: (between ++ rest)))
    (haccepts : Accepts profile (after profile start past) s .update) :
    ∃ e precursor current,
      (Envelope.parse s.instruction s.document = .ok e ∧ e.action = .ok .update) ∧
      (e.modification profile precursor).outcome = .ok () ∧
      after profile start (past ++ s :: between) = some current ∧
      e.document.Continues current := by
  obtain ⟨e, hparse, haction, hcase⟩ := accepts_iff.1 haccepts
  obtain ⟨precursor, -, -, houtcome⟩ := hcase.resolve_left (by simp)
  have hnext : (step profile (after profile start past) s).current = some e.document := by
    rw [step_current_of_accepts haccepts hparse, successor, haction]
  have hbetween : Steady profile (some e.document) between := by
    have hlater := h.of_append.2.tail
    rw [hnext] at hlater
    exact hlater.of_append.1
  obtain ⟨current, hcurrent, hcontinues⟩ := hbetween.after_some
  refine ⟨e, precursor, current, ⟨hparse, haction⟩, houtcome, ?_, hcontinues⟩
  rw [after_append, after_cons, hnext, hcurrent]

/-- A stretch that creates and deletes nothing, from any current document and hence anywhere in a
run: all its current documents have one creation time, the update times of its accepted updates
rise, and what an accepted update submitted is out of order at every later point. -/
theorem steady_stretch_resists_replay {profile : Profile} {start : Option Document}
    {stretch : List Step} (hsteady : Steady profile start stretch) :
    (∀ d d', CurrentIn profile start stretch d → CurrentIn profile start stretch d' →
      d.created = d'.created) ∧
    (∀ past s between t rest, stretch = past ++ s :: (between ++ t :: rest) →
      Accepts profile (after profile start past) s .update →
      Accepts profile (after profile start (past ++ s :: between)) t .update →
      ∃ e e' u u', Envelope.parse s.instruction s.document = .ok e ∧
        Envelope.parse t.instruction t.document = .ok e' ∧
        e.document.updated = .ok (some u) ∧ e'.document.updated = .ok (some u') ∧
        u.before u' = true) ∧
    (∀ past s between rest, stretch = past ++ s :: (between ++ rest) →
      Accepts profile (after profile start past) s .update →
      (step profile (after profile start (past ++ s :: between)) s).judgement.verdict =
        .rejected .temporalOrder) := by
  refine ⟨?_, ?_, ?_⟩
  · intro d d' hd hd'
    obtain ⟨first, hfirst, hcreated⟩ := hsteady.created_eq hd
    obtain ⟨first', hfirst', hcreated'⟩ := hsteady.created_eq hd'
    obtain rfl : first = first' := Option.some.inj (hfirst.symm.trans hfirst')
    exact hcreated.trans hcreated'.symm
  · rintro past s between t rest rfl hs ht
    obtain ⟨e, precursor, current, ⟨hparse, -⟩, houtcome, hcurrent, hcontinues⟩ :=
      hsteady.after_update hs
    obtain ⟨-, u, hu, -⟩ := Envelope.modification_advances houtcome
    obtain ⟨v, hv, huv⟩ := hcontinues.updated u hu
    obtain ⟨e', hparse', -, hcase⟩ := accepts_iff.1 ht
    obtain ⟨precursor', hprecursor', -, houtcome'⟩ := hcase.resolve_left (by simp)
    obtain rfl : current = precursor' := Option.some.inj (hcurrent.symm.trans hprecursor')
    obtain ⟨-, u', hu', hlater⟩ := Envelope.modification_advances houtcome'
    refine ⟨e, e', u, u', hparse, hparse', hu, hu', ?_⟩
    rcases huv with rfl | huv
    · exact hlater u hv
    · exact Timestamp.before_trans huv (hlater v hv)
  · rintro past s between rest rfl hs
    obtain ⟨e, precursor, current, ⟨hparse, haction⟩, houtcome, hcurrent, hcontinues⟩ :=
      hsteady.after_update hs
    have hreplayed := Envelope.modification_replayed houtcome hcontinues
    simp only [step_of_parse hparse, hcurrent, Envelope.dispatch, haction, Option.map_some,
      Judgement.ofOption, Judgement.ofLogged, hreplayed]

/-- An update of the founding document is a stretch, and submitting it again is out of order. -/
theorem movingStep_replayed :
    Steady .standard (some Envelope.founding.document) [movingStep] ∧
      Accepts .standard (some Envelope.founding.document) movingStep .update ∧
      (step .standard (after .standard (some Envelope.founding.document) [movingStep])
        movingStep).judgement.verdict = .rejected .temporalOrder := by
  have haccepts := movingStep_accepts
  have hsteady : Steady .standard (some Envelope.founding.document) [movingStep] := by
    intro past s rest hsplit
    obtain ⟨rfl, hrest⟩ | ⟨-, hnil⟩ := List.singleton_eq_append_iff.1 hsplit
    · obtain ⟨rfl, rfl⟩ := List.cons.inj hrest
      exact ⟨fun h => absurd (haccepts.action_eq h) (by decide),
        fun h => absurd (haccepts.action_eq h) (by decide)⟩
    · cases hnil
  have hreplayed := (steady_stretch_resists_replay hsteady).2.2 [] movingStep [] []
  simp only [List.nil_append, after_nil, forall_const] at hreplayed
  exact ⟨hsteady, haccepts, hreplayed haccepts⟩

end History

end DidAdmission
