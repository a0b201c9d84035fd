-- SUMMARY: Every current document of a run has passed the checks of one document.
import DidAdmission.Proofs.History.Transition

/-!
# Sound documents

A document is sound when it can be read as a whole and its keys are distinct, supported and
anchored. The checks ask for it on every path by which a document becomes current, so a run that
starts without a document only ever has sound ones.
-/

namespace DidAdmission

/-- The document can be read, with this id and these owners as its keys, and they fit together. -/
structure Document.Sound (profile : Profile) (d : Document) (name : Identifier)
    (owners : List PublicKey) : Prop where
  context : d.context = .ok ()
  created : ∃ t, d.created = .ok t
  updated : ∃ t, d.updated = .ok t
  id : d.id profile.networkPolicy = .ok name
  keys : d.publicKeys = .ok owners
  someKey : owners ≠ []
  keyIds : (owners.map (·.id.text)).Nodup
  suites : ∀ owner ∈ owners, profile.supports owner.suite = true
  anchored : ∀ owner ∈ owners, owner.isAnchoredIn name.text = true

/-- What an envelope with well-formed particulars declares is a sound document. -/
theorem Envelope.Declares.sound {profile : Profile} {stage : Check.Stage} {e : Envelope}
    {p : Particulars} (hp : e.Declares profile p) (hwf : p.WellFormed profile stage) :
    e.document.Sound profile p.id p.keys where
  context := hp.context
  created := ⟨p.created, hp.created⟩
  updated := ⟨p.updated, hp.updated⟩
  id := hp.id
  keys := hp.keys
  someKey := hwf.someKey
  keyIds := hwf.keyIds
  suites := hwf.suites
  anchored := hwf.anchored

theorem Envelope.sound_of_checkBase {profile : Profile} {stage : Check.Stage} {e : Envelope}
    {signatures : List Signature} (h : (e.checkBase profile stage).outcome = .ok signatures) :
    ∃ name owners, e.document.Sound profile name owners := by
  obtain ⟨p, hp, hadmissible, -⟩ := outcome_checkBase_eq_ok_iff.1 h
  exact ⟨p.id, p.keys, hp.sound hadmissible.toWellFormed⟩

namespace History

/-- The current document, if there is one, is sound. -/
def CurrentSound (profile : Profile) (current : Option Document) : Prop :=
  ∀ d, current = some d → ∃ name owners, d.Sound profile name owners

theorem step_sound {profile : Profile} {current : Option Document} (s : Step)
    (h : CurrentSound profile current) : CurrentSound profile (step profile current s).current := by
  generalize hnext : (step profile current s).current = next
  cases hnext ▸ step_transition profile current s with
  | refused hverdict => exact h
  | created e hparse haccepts houtcome =>
    intro d hd
    obtain rfl := Option.some.inj hd
    obtain ⟨-, signatures, hbase⟩ := Envelope.outcome_creation_eq_ok_iff.1 houtcome
    exact Envelope.sound_of_checkBase hbase
  | updated e precursor hparse hcurrent haccepts houtcome =>
    intro d hd
    obtain rfl := Option.some.inj hd
    obtain ⟨-, signatures, -, hbase, -⟩ := Envelope.outcome_modification_eq_ok_iff.1 houtcome
    exact Envelope.sound_of_checkBase hbase
  | deleted e precursor hparse hcurrent haccepts houtcome => exact fun _ hd => nomatch hd

theorem after_sound {profile : Profile} {current : Option Document} (steps : List Step)
    (h : CurrentSound profile current) : CurrentSound profile (after profile current steps) := by
  induction steps generalizing current with
  | nil => exact h
  | cons s rest ih => exact ih (step_sound s h)

/-- A run that starts without a document only has sound ones. -/
theorem after_none_sound (profile : Profile) (steps : List Step) :
    CurrentSound profile (after profile none steps) :=
  after_sound steps fun _ hd => nomatch hd

end History

end DidAdmission
