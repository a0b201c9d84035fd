-- SUMMARY: The order of the signatures in an instruction does not change what becomes of it.
import DidAdmission.Proofs.Admission.Likeness
import DidAdmission.Proofs.Admission.Pairing
import DidAdmission.Proofs.History.Transition
import DidAdmission.Proofs.Reading.Entries
import Mathlib.Data.List.Perm.Basic

/-!
# Reordered signatures

Where no two signatures have one target, every search among them finds the same signature in whatever
order they stand, so the checks see no difference and leave the same events. Where two signatures have
one target, or one cannot be read, neither order is accepted. Nor do the checks tell an update from a
deletion where all keys of the precursor must sign.
-/

namespace DidAdmission

/-! ## Entries -/

section

variable {ε α β : Type} {f : α → Except ε β} {xs xs' : List α} {ys : List β}

/-- Entries in another order are read in that order. -/
theorem mapM_perm (hperm : xs.Perm xs') (h : xs.mapM f = .ok ys) :
    ∃ ys', xs'.mapM f = .ok ys' ∧ ys.Perm ys' := by
  obtain ⟨ys', hys', hperm'⟩ := List.perm_comp_forall₂ hperm.symm (mapM_eq_ok_iff.1 h)
  exact ⟨ys', mapM_eq_ok_iff.2 hys', hperm'.symm⟩

end

/-! ## Searching for signatures -/

namespace Check

section

variable {signatures signatures' : List Signature}

theorem targeting?_perm (htargets : (signatures.map (·.target.text)).Nodup)
    (hperm : signatures.Perm signatures') (key : PublicKey) :
    targeting? signatures key = targeting? signatures' key := by
  have htargets' := (hperm.map _).nodup_iff.1 htargets
  ext s
  rw [targeting?_eq_some_iff htargets, targeting?_eq_some_iff htargets', hperm.mem_iff]

/-- The signatures that target a key are the one that is found. -/
theorem filter_same_eq_targeting? (htargets : (signatures.map (·.target.text)).Nodup)
    (key : PublicKey) :
    (signatures.filter fun s => s.target.same key.id) = (targeting? signatures key).toList := by
  induction signatures with
  | nil => rfl
  | cons s rest ih =>
    obtain ⟨hs, hrest⟩ := List.nodup_cons.1 htargets
    rw [targeting?, List.filter_cons, List.find?_cons]
    cases hsame : s.target.same key.id with
    | false => exact ih hrest
    | true =>
      have hnone : (rest.filter fun s => s.target.same key.id) = [] := by
        rw [List.filter_eq_nil_iff]
        intro s' hs' hsame'
        have htarget : s'.target.text = s.target.text :=
          (eq_of_beq hsame').trans (eq_of_beq hsame).symm
        exact hs (List.mem_map.2 ⟨s', hs', htarget⟩)
      rw [if_pos rfl, hnone]
      rfl

theorem claims_perm (htargets : (signatures.map (·.target.text)).Nodup)
    (hperm : signatures.Perm signatures') (owners : List PublicKey) :
    claims owners signatures = claims owners signatures' := by
  have htargets' := (hperm.map _).nodup_iff.1 htargets
  simp only [claims, Bool.and_comm, ← List.filter_filter, filter_same_eq_targeting? htargets,
    filter_same_eq_targeting? htargets', targeting?_perm htargets hperm]

theorem Alike.of_perm (htargets : (signatures.map (·.target.text)).Nodup)
    (hperm : signatures.Perm signatures') : Alike signatures signatures' where
  count := hperm.length_eq
  distinct := by
    have htargets' := (hperm.map _).nodup_iff.1 htargets
    rw [distinctTargets_eq_ok_iff.2 htargets, distinctTargets_eq_ok_iff.2 htargets']
  first := fun key => by rw [targeting?_perm htargets hperm]
  last := fun key => by
    have htargets' := (hperm.map _).nodup_iff.1 htargets
    rw [lastTargeting?_eq_targeting? htargets, lastTargeting?_eq_targeting? htargets',
      targeting?_perm htargets hperm]
  claims := fun owners => by rw [claims_perm htargets hperm]

end

end Check

/-! ## Two instructions for one document -/

namespace Instruction

/-- The instructions carry the same entries as signatures, in any order. -/
def Reorders (i i' : Instruction) : Prop :=
  ∃ entries entries', i.submission.object.optionalArray "signatures" = .ok entries ∧
    i'.submission.object.optionalArray "signatures" = .ok entries' ∧ entries.Perm entries'

/-- All signatures can be read, and no two have one target. -/
def DistinctTargets (i : Instruction) : Prop :=
  ∃ signatures, i.signatures = .ok signatures ∧ (signatures.map (·.target.text)).Nodup

/-- The checks find the same signatures in both instructions. -/
inductive SignedAlike (i i' : Instruction) : Prop
  | same (h : i.signatures = i'.signatures)
  | reordered {signatures signatures' : List Signature} (h : i.signatures = .ok signatures)
    (h' : i'.signatures = .ok signatures')
    (htargets : (signatures.map (·.target.text)).Nodup) (hperm : signatures.Perm signatures')

theorem SignedAlike.foundAlike {i i' : Instruction} (h : i.SignedAlike i') : i.FoundAlike i' := by
  cases h with
  | same h => exact .same h
  | reordered h h' htargets hperm => exact .alike h h' (.of_perm htargets hperm)

theorem Reorders.symm {i i' : Instruction} (h : i.Reorders i') : i'.Reorders i := by
  obtain ⟨entries, entries', hentries, hentries', hperm⟩ := h
  exact ⟨entries', entries, hentries', hentries, hperm.symm⟩

/-- The signatures of a reordered instruction are read in its order. -/
theorem Reorders.signatures_eq_ok {i i' : Instruction} {signatures : List Signature}
    (h : i.Reorders i') (hsignatures : i.signatures = .ok signatures) :
    ∃ signatures', i'.signatures = .ok signatures' ∧ signatures.Perm signatures' := by
  obtain ⟨entries, entries', hentries, hentries', hperm⟩ := h
  rw [Instruction.signatures, hentries, ok_bind] at hsignatures
  rw [Instruction.signatures, hentries', ok_bind]
  exact mapM_perm hperm hsignatures

theorem Reorders.distinctTargets {i i' : Instruction} (h : i.Reorders i')
    (hdistinct : i.DistinctTargets) : i'.DistinctTargets := by
  obtain ⟨signatures, hsignatures, htargets⟩ := hdistinct
  obtain ⟨signatures', hsignatures', hperm⟩ := h.signatures_eq_ok hsignatures
  exact ⟨signatures', hsignatures', (hperm.map _).nodup_iff.1 htargets⟩

theorem Reorders.signedAlike {i i' : Instruction} (h : i.Reorders i')
    (hdistinct : i.DistinctTargets) : i.SignedAlike i' := by
  obtain ⟨signatures, hsignatures, htargets⟩ := hdistinct
  obtain ⟨signatures', hsignatures', hperm⟩ := h.signatures_eq_ok hsignatures
  exact .reordered hsignatures hsignatures' htargets hperm

end Instruction

namespace Envelope

section

variable {profile : Profile} {i i' : Instruction} {d : Document}

theorem action_eq_ok_iff {e : Envelope} {a : Action} :
    e.action = .ok a ↔ e.instruction.action = .ok a := by
  unfold action
  split <;> simp_all

theorem creation_distinctTargets (h : (creation profile ⟨i, d⟩).outcome = .ok ()) :
    i.DistinctTargets := by
  obtain ⟨-, signatures, hbase⟩ := outcome_creation_eq_ok_iff.1 h
  obtain ⟨p, hp, hadmissible, -⟩ := outcome_checkBase_eq_ok_iff.1 hbase
  exact ⟨p.signatures, hp.signatures, hadmissible.targets⟩

theorem modification_distinctTargets {precursor : Document}
    (h : (modification profile ⟨i, d⟩ precursor).outcome = .ok ()) : i.DistinctTargets := by
  obtain ⟨-, p, -, -, hp, hadmissible, -⟩ := modification_authorized h
  exact ⟨p.signatures, hp.signatures, hadmissible.targets⟩

end

end Envelope

/-! ## Questions -/

section

variable {profile : Profile} {question : Question} {instruction instruction' document : String}
  {precursor : Option String} {i i' : Instruction}

/-- Two instructions that are signed alike are answered alike; only a creation tells apart the actions
that it refuses. -/
theorem Question.answer_eq (h : Instruction.parse instruction = .ok i)
    (h' : Instruction.parse instruction' = .ok i') (halike : i.SignedAlike i')
    (htreats : profile.TreatsAlike i.action i'.action)
    (hcreation : question = .creation → i.action = i'.action) :
    question.answer profile instruction document precursor =
      question.answer profile instruction' document precursor :=
  answer_alike h h' halike.foundAlike htreats hcreation

/-- An instruction that is accepted carries signatures with distinct targets, and it creates if a
creation was asked about. -/
theorem Question.answer_accepted (h : Instruction.parse instruction = .ok i)
    (haccepted : (question.answer profile instruction document precursor).verdict = .accepted) :
    i.DistinctTargets ∧ (question = .creation → i.action = .ok .create) := by
  simp only [answer, Envelope.parse, h, mapError_ok, ok_bind] at haccepted
  cases hdocument : Document.parse document with
  | error reason => simp [hdocument, Judgement.unread] at haccepted
  | ok d =>
    simp only [hdocument, mapError_ok, ok_bind] at haccepted
    cases hprecursor : precursor.mapM Document.parse with
    | error reason => simp [hprecursor, Judgement.unread] at haccepted
    | ok current =>
      simp only [hprecursor] at haccepted
      cases question with
      | creation =>
        have houtcome := History.verdict_ofLogged_eq_accepted_iff.1 haccepted
        exact ⟨Envelope.creation_distinctTargets houtcome, fun _ =>
          Envelope.action_eq_ok_iff.1 (Envelope.outcome_creation_eq_ok_iff.1 houtcome).1⟩
      | modification =>
        cases current with
        | none => simp [Judgement.ofOption] at haccepted
        | some c =>
          have houtcome := History.verdict_ofLogged_eq_accepted_iff.1 haccepted
          exact ⟨Envelope.modification_distinctTargets houtcome, by simp⟩
      | dispatch =>
        refine ⟨?_, by simp⟩
        rcases History.verdict_dispatch_eq_accepted_iff.1 haccepted with
          ⟨-, houtcome⟩ | ⟨c, -, -, houtcome⟩
        · exact Envelope.creation_distinctTargets houtcome
        · exact Envelope.modification_distinctTargets houtcome

/-- Instructions of which neither is accepted without distinct targets are accepted together, if they
are answered alike where the targets are distinct. -/
theorem Question.accepted_iff (h : Instruction.parse instruction = .ok i)
    (h' : Instruction.parse instruction' = .ok i') (hreorders : i.Reorders i')
    (hanswer : i.DistinctTargets →
      question.answer profile instruction document precursor =
        question.answer profile instruction' document precursor) :
    (question.answer profile instruction document precursor).verdict = .accepted ↔
      (question.answer profile instruction' document precursor).verdict = .accepted := by
  constructor
  · intro haccepted
    rwa [← hanswer (answer_accepted h haccepted).1]
  · intro haccepted
    rwa [hanswer (hreorders.symm.distinctTargets (answer_accepted h' haccepted).1)]

/-- Reordering the signatures of an instruction never makes it accepted or refused, and where they can
all be read and have distinct targets, it changes neither the verdict nor the events. Where all keys of
a precursor must sign, an update and a deletion are judged alike; a creation refuses either by name. -/
theorem reordering_keeps_judgement (profile : Profile) (question : Question) (document : String)
    (precursor : Option String) (h : Instruction.parse instruction = .ok i)
    (h' : Instruction.parse instruction' = .ok i') (hreorders : i.Reorders i') :
    (i.action = i'.action →
      ((question.answer profile instruction document precursor).verdict = .accepted ↔
        (question.answer profile instruction' document precursor).verdict = .accepted) ∧
      (i.DistinctTargets →
        question.answer profile instruction document precursor =
          question.answer profile instruction' document precursor)) ∧
    (profile.deletion = .allKeys → i.action = .ok .update → i'.action = .ok .delete →
      ((question.answer profile instruction document precursor).verdict = .accepted ↔
        (question.answer profile instruction' document precursor).verdict = .accepted) ∧
      (question ≠ .creation → i.DistinctTargets ∨ i.signatures = i'.signatures →
        question.answer profile instruction document precursor =
          question.answer profile instruction' document precursor)) := by
  constructor
  · intro haction
    have htreats : profile.TreatsAlike i.action i'.action := haction ▸ .same _
    have hanswer : i.DistinctTargets →
        question.answer profile instruction document precursor =
          question.answer profile instruction' document precursor := fun hdistinct =>
      Question.answer_eq h h' (hreorders.signedAlike hdistinct) htreats fun _ => haction
    exact ⟨Question.accepted_iff h h' hreorders hanswer, hanswer⟩
  · intro hpolicy hupdate hdelete
    have htreats : profile.TreatsAlike i.action i'.action := by
      rw [hupdate, hdelete]
      exact .changes hpolicy
    have hanswer (hquestion : question ≠ .creation)
        (hsigned : i.DistinctTargets ∨ i.signatures = i'.signatures) :
        question.answer profile instruction document precursor =
          question.answer profile instruction' document precursor := by
      have halike : i.SignedAlike i' := hsigned.elim hreorders.signedAlike .same
      exact Question.answer_eq h h' halike htreats fun hcreation => absurd hcreation hquestion
    refine ⟨?_, hanswer⟩
    by_cases hquestion : question = .creation
    · -- A creation accepts neither.
      refine iff_of_false (fun haccepted => ?_) fun haccepted => ?_
      · have hcreate := (Question.answer_accepted h haccepted).2 hquestion
        simp [hupdate] at hcreate
      · have hcreate := (Question.answer_accepted h' haccepted).2 hquestion
        simp [hdelete] at hcreate
    · exact Question.accepted_iff h h' hreorders fun hdistinct => hanswer hquestion (.inl hdistinct)

end

/-! ## Mirrored twins

The signatures of the twins in the other order, among other members. -/

namespace Envelope

def mirroredOrder (action : String) : String :=
  "\x7b \"note\":null,\"signatures\":[" ++ signatureText (twinId " ") twinMaterial ++ ","
    ++ signatureText (twinId "") twinMaterial ++ "],\"action\":\"" ++ action ++ "\"\x7d"

def mirroredInstruction (action : String) : Instruction where
  submission.text := mirroredOrder action
  submission.object :=
    [("action", .text action), ("note", .null),
     ("signatures", .array
       [signatureEntry (twinId " #k") twinMaterial, signatureEntry (twinId "#k") twinMaterial])]

set_option maxRecDepth 20000 in
theorem parse_mirroredOrder {action : String} (h : action = "update" ∨ action = "delete") :
    Instruction.parse (mirroredOrder action) = .ok (mirroredInstruction action) := by
  have horder : Json.read (mirroredOrder action) =
      .ok (.object (mirroredInstruction action).submission.object) := by
    unfold Json.read mirroredOrder signatureText twinId twinMaterial
    rcases h with rfl | rfl
    all_goals
      simp only [String.toList_append]
      repeat rw [String.toList_ofList]
      rfl
  exact Instruction.parse_of_read horder

theorem twins_mirrored (action action' : String) :
    (twinInstruction action).Reorders (mirroredInstruction action') :=
  ⟨_, _, rfl, rfl, .swap _ _ _⟩

theorem twins_distinctTargets (action : String) : (twinInstruction action).DistinctTargets :=
  ⟨_, (twins_declare action).signatures, (twins_wellFormed .creation).targets⟩

/-- The update of the founding document to the twins is accepted, and judged as its mirror image and as
the mirrored deletion. -/
theorem twins_judged_in_any_order :
    (Question.modification.answer .standard (twinOrder "update") twinText
      (some foundingText)).verdict = .accepted ∧
    Question.modification.answer .standard (twinOrder "update") twinText (some foundingText) =
      Question.modification.answer .standard (mirroredOrder "update") twinText (some foundingText) ∧
    Question.modification.answer .standard (twinOrder "update") twinText (some foundingText) =
      Question.modification.answer .standard (mirroredOrder "delete") twinText
        (some foundingText) := by
  have hparse := parse_twinOrder (.inr rfl)
  have hupdate := (reordering_keeps_judgement .standard .modification twinText (some foundingText)
    hparse (parse_mirroredOrder (.inl rfl)) (twins_mirrored _ _)).1 rfl
  have hdelete := (reordering_keeps_judgement .standard .modification twinText (some foundingText)
    hparse (parse_mirroredOrder (.inr rfl)) (twins_mirrored _ _)).2 rfl rfl rfl
  have htwins : parse (twinOrder "update") twinText = .ok (twins "update") :=
    parse_eq_ok_iff.2 ⟨hparse, parse_twinText⟩
  have hfounding : Document.parse foundingText = .ok founding.document :=
    (parse_eq_ok_iff.1 parse_founding).2
  have haccepted : (Question.modification.answer .standard (twinOrder "update") twinText
      (some foundingText)).verdict = .accepted := by
    rw [Question.answer_modification htwins hfounding]
    exact History.verdict_ofLogged_eq_accepted_iff.2 twins_changed
  exact ⟨haccepted, hupdate.2 (twins_distinctTargets _),
    hdelete.2 nofun (.inl (twins_distinctTargets _))⟩

end Envelope

end DidAdmission
