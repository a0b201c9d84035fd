-- SUMMARY: Signatures that every search finds alike are checked alike, and so are the instructions that carry them.
import DidAdmission.Proofs.Admission.Acceptance
import DidAdmission.Proofs.Admission.Calls

/-!
# Signatures that are found alike

The checks see the signatures of an instruction through a few searches, and of what they find they read
the suite, the target and the bytes. Two instructions whose signatures answer these searches alike are
checked alike, with the same events. Nor do the checks tell an update from a deletion where all keys of
the precursor must sign.
-/

namespace DidAdmission

/-- What is made of the answers can be made of each of them. -/
theorem mapM_map {ε α β γ : Type} (f : α → Except ε β) (g : β → γ) (xs : List α) :
    (xs.mapM f).map (List.map g) = xs.mapM fun x => (f x).map g := by
  induction xs with
  | nil => rfl
  | cons x xs ih =>
    rw [List.mapM_cons, List.mapM_cons, ← ih]
    cases f x with
    | error e => rfl
    | ok y => cases xs.mapM f <;> rfl

/-- What follows a check that fails for one reason, or answers alike in all that is read of it. -/
theorem Logged.ofExcept_bind_congr {α β γ : Type} {x x' : Except Rejection α}
    {f f' : α → Logged β} (read : α → γ) (h : x.map read = x'.map read)
    (hf : ∀ a a', read a = read a' → f a = f' a') :
    (Logged.ofExcept x >>= f) = Logged.ofExcept x' >>= f' := by
  cases x with
  | error rejection =>
    cases x' with
    | error rejection' =>
      obtain rfl : rejection = rejection' := Except.error.inj h
      rfl
    | ok a' => cases h
  | ok a =>
    cases x' with
    | error rejection' => cases h
    | ok a' => exact hf a a' (Except.ok.inj h)

/-- The signature as if it had been written in Base58. -/
def Signature.inBase58 (s : Signature) : Signature := { s with encoding := .base58 }

namespace Check

/-- A key with a signature that is as if written in Base58. -/
def pairInBase58 (pair : PublicKey × Signature) : PublicKey × Signature :=
  (pair.1, pair.2.inBase58)

/-! ## Pairs -/

theorem sameSuites_inBase58 (ps : List (PublicKey × Signature)) :
    sameSuites (ps.map pairInBase58) = sameSuites ps := by
  induction ps with
  | nil => rfl
  | cons pair ps ih =>
    have hcons (p : PublicKey × Signature) (rest : List (PublicKey × Signature)) :
        sameSuites (p :: rest) = sameSuite p.1 p.2 >>= fun _ => sameSuites rest := rfl
    rw [List.map_cons, hcons, ih]
    rfl

theorem validSignatures_inBase58 (message : Bytes) (ps : List (PublicKey × Signature)) :
    validSignatures message (ps.map pairInBase58) = validSignatures message ps := by
  induction ps with
  | nil => rfl
  | cons pair ps ih =>
    rw [List.map_cons, validSignatures, ih]
    rfl

theorem anyVerifies_inBase58 (message : Bytes) (ps : List (PublicKey × Signature)) :
    anyVerifies message (ps.map pairInBase58) = anyVerifies message ps := by
  induction ps with
  | nil => rfl
  | cons pair ps ih =>
    rw [List.map_cons, anyVerifies, ih]
    rfl

/-! ## Signatures -/

/-- Every search among the signatures finds the same, but for how it is written. -/
structure Alike (signatures signatures' : List Signature) : Prop where
  count : signatures.length = signatures'.length
  distinct : distinctTargets signatures = distinctTargets signatures'
  first : ∀ key, (targeting? signatures key).map Signature.inBase58 =
    (targeting? signatures' key).map Signature.inBase58
  last : ∀ key, (lastTargeting? signatures key).map Signature.inBase58 =
    (lastTargeting? signatures' key).map Signature.inBase58
  claims : ∀ owners, (claims owners signatures).map pairInBase58 =
    (Check.claims owners signatures').map pairInBase58

namespace Alike

variable {signatures signatures' : List Signature}

theorem refl (signatures : List Signature) : Alike signatures signatures :=
  ⟨rfl, rfl, fun _ => rfl, fun _ => rfl, fun _ => rfl⟩

theorem pairs_eq (h : Alike signatures signatures') (keys : List PublicKey) :
    (pairs keys signatures).map (List.map pairInBase58) =
      (pairs keys signatures').map (List.map pairInBase58) := by
  rw [pairs, pairs, mapM_map, mapM_map]
  congr 1
  funext key
  have hlast := h.last key
  cases hs : lastTargeting? signatures key with
  | none =>
    cases hs' : lastTargeting? signatures' key with
    | none => rfl
    | some s' => simp [hs, hs'] at hlast
  | some s =>
    cases hs' : lastTargeting? signatures' key with
    | none => simp [hs, hs'] at hlast
    | some s' =>
      rw [hs, hs'] at hlast
      have hsame : s.inBase58 = s'.inBase58 := Option.some.inj hlast
      exact congrArg (fun found => Except.ok (key, found)) hsame

theorem ownerSigned_eq (h : Alike signatures signatures') (message : Bytes) (owner : PublicKey) :
    ownerSigned message signatures owner = ownerSigned message signatures' owner := by
  have hfirst := h.first owner
  unfold ownerSigned
  cases hs : targeting? signatures owner with
  | none =>
    cases hs' : targeting? signatures' owner with
    | none => rfl
    | some s' => simp [hs, hs'] at hfirst
  | some s =>
    cases hs' : targeting? signatures' owner with
    | none => simp [hs, hs'] at hfirst
    | some s' =>
      rw [hs, hs'] at hfirst
      have hsame : s.inBase58 = s'.inBase58 := Option.some.inj hfirst
      -- Neither check reads how a signature is written.
      calc Logged.ofExcept (sameSuite owner s) >>= (fun _ => validSignature message owner s)
          = Logged.ofExcept (sameSuite owner s.inBase58) >>= fun _ =>
              validSignature message owner s.inBase58 := rfl
        _ = Logged.ofExcept (sameSuite owner s'.inBase58) >>= fun _ =>
              validSignature message owner s'.inBase58 := by rw [hsame]
        _ = Logged.ofExcept (sameSuite owner s') >>= fun _ => validSignature message owner s' := rfl

theorem ownersSigned_eq (h : Alike signatures signatures') (message : Bytes)
    (owners : List PublicKey) :
    ownersSigned message signatures owners = ownersSigned message signatures' owners := by
  induction owners with
  | nil => rfl
  | cons owner rest ih => rw [ownersSigned, ownersSigned, ih, h.ownerSigned_eq]

theorem anyVerifies_claims_eq (h : Alike signatures signatures') (message : Bytes)
    (owners : List PublicKey) :
    anyVerifies message (Check.claims owners signatures) =
      anyVerifies message (Check.claims owners signatures') := by
  rw [← anyVerifies_inBase58, h.claims, anyVerifies_inBase58]

theorem ownership_eq (h : Alike signatures signatures') {profile : Profile} {action action' : Action}
    (hsuffices : anyOwnerSuffices profile action = anyOwnerSuffices profile action')
    (document precursor : Document) :
    ownership profile action document precursor signatures =
      ownership profile action' document precursor signatures' := by
  simp only [ownership, hsuffices, h.anyVerifies_claims_eq, h.ownersSigned_eq]

end Alike

end Check

/-! ## Instructions -/

/-- The signatures of both instructions cannot be read for one reason, or are found alike. -/
inductive Instruction.FoundAlike (i i' : Instruction) : Prop
  | same (h : i.signatures = i'.signatures)
  | alike {signatures signatures' : List Signature} (h : i.signatures = .ok signatures)
    (h' : i'.signatures = .ok signatures') (halike : Check.Alike signatures signatures')

/-- The profile does not tell the actions apart. -/
inductive Profile.TreatsAlike (profile : Profile) :
    Except ReadFailure Action → Except ReadFailure Action → Prop
  | same (action : Except ReadFailure Action) : TreatsAlike profile action action
  | changes (hpolicy : profile.deletion = .allKeys) : TreatsAlike profile (.ok .update) (.ok .delete)

namespace Envelope

section

variable {profile : Profile} {i i' : Instruction} {d : Document}

/-- What is found in a document does not depend on which of the signatures are carried. -/
theorem checkStructure_alike {signatures signatures' : List Signature} (profile : Profile)
    (stage : Check.Stage) (d : Document)
    (h : i.signatures = .ok signatures) (h' : i'.signatures = .ok signatures')
    (halike : Check.Alike signatures signatures') :
    checkStructure profile stage ⟨i', d⟩ =
      (checkStructure profile stage ⟨i, d⟩).map fun found =>
        { found with signatures := signatures' } := by
  simp only [checkStructure, map_bind_eq, h, h', mapError_ok, ok_bind, halike.count,
    halike.distinct]
  rfl

/-- The checks of one document see no difference, if those that follow see none. -/
theorem checkBase_bind_alike {β : Type} {next next' : List Signature → Logged β}
    (stage : Check.Stage) (halike : i.FoundAlike i')
    (hnext : ∀ signatures signatures', Check.Alike signatures signatures' →
      next signatures = next' signatures') :
    (checkBase profile stage ⟨i, d⟩ >>= next) = checkBase profile stage ⟨i', d⟩ >>= next' := by
  cases halike with
  | same h =>
    have hbase : checkBase profile stage ⟨i, d⟩ = checkBase profile stage ⟨i', d⟩ := by
      simp only [checkBase, checkStructure, h]
    rw [hbase]
    exact Logged.bind_congr fun signatures _ => hnext _ _ (.refl signatures)
  | @alike signatures signatures' h h' halike =>
    have hfound := checkStructure_alike profile stage d h h' halike
    simp only [checkBase, Logged.bind_assoc, hfound]
    cases hstructure : checkStructure profile stage ⟨i, d⟩ with
    | error rejection => rfl
    | ok found =>
      obtain ⟨p, hp, -, rfl⟩ := checkStructure_eq_ok_iff.1 hstructure
      obtain rfl : signatures = p.signatures := Except.ok.inj (h.symm.trans hp.signatures)
      simp only [Except.map, Logged.ofExcept_ok_bind, Logged.accept_bind]
      refine Logged.bind_congr fun _ _ => ?_
      refine Logged.ofExcept_bind_congr (List.map Check.pairInBase58) (halike.pairs_eq p.keys) ?_
      intro ps ps' hps
      have hsuites : Check.sameSuites ps = Check.sameSuites ps' := by
        rw [← Check.sameSuites_inBase58, hps, Check.sameSuites_inBase58]
      have hvalid : Check.validSignatures d.bytes ps = Check.validSignatures d.bytes ps' := by
        rw [← Check.validSignatures_inBase58, hps, Check.validSignatures_inBase58]
      have hcount : ps.length = ps'.length := by simpa using congrArg List.length hps
      rw [hsuites, hvalid, hcount, hnext _ _ halike]

theorem action_eq (h : i.action = i'.action) : action ⟨i, d⟩ = action ⟨i', d⟩ := by
  simp only [action, h]

theorem creation_alike (halike : i.FoundAlike i') (haction : i.action = i'.action) :
    creation profile ⟨i, d⟩ = creation profile ⟨i', d⟩ := by
  have hcreating : creatingAction ⟨i, d⟩ = creatingAction ⟨i', d⟩ := by
    rw [creatingAction, creatingAction, action_eq haction]
  rw [creation, creation, hcreating]
  exact congrArg Logged.reported <| Logged.bind_congr fun _ _ =>
    checkBase_bind_alike .creation halike fun _ _ _ => rfl

/-- What follows the action of a change. -/
theorem change_alike {action action' : Action} (halike : i.FoundAlike i')
    (hsuffices : Check.anyOwnerSuffices profile action = Check.anyOwnerSuffices profile action')
    (precursor : Document) :
    (checkBase profile .modification ⟨i, d⟩ >>= fun signatures =>
      Logged.ofExcept (Check.succession d precursor) >>= fun _ =>
        Check.ownership profile action d precursor signatures) =
    checkBase profile .modification ⟨i', d⟩ >>= fun signatures =>
      Logged.ofExcept (Check.succession d precursor) >>= fun _ =>
        Check.ownership profile action' d precursor signatures :=
  checkBase_bind_alike .modification halike fun _ _ hfound =>
    Logged.bind_congr fun _ _ => hfound.ownership_eq hsuffices d precursor

theorem modification_alike (halike : i.FoundAlike i')
    (htreats : profile.TreatsAlike i.action i'.action) (precursor : Document) :
    modification profile ⟨i, d⟩ precursor = modification profile ⟨i', d⟩ precursor := by
  generalize haction : i.action = asked at htreats
  generalize haction' : i'.action = asked' at htreats
  cases htreats with
  | same action =>
    have hchanging : changingAction ⟨i, d⟩ = changingAction ⟨i', d⟩ := by
      rw [changingAction, changingAction, action_eq (haction.trans haction'.symm)]
    rw [modification, modification, hchanging]
    exact congrArg Logged.reported <| Logged.bind_congr fun _ _ => change_alike halike rfl precursor
  | changes hpolicy =>
    have hupdate : changingAction ⟨i, d⟩ = .ok .update :=
      changingAction_eq_ok_iff.2 ⟨by simp only [action, haction], .inl rfl⟩
    have hdelete : changingAction ⟨i', d⟩ = .ok .delete :=
      changingAction_eq_ok_iff.2 ⟨by simp only [action, haction'], .inr rfl⟩
    have hsuffices :
        Check.anyOwnerSuffices profile .update = Check.anyOwnerSuffices profile .delete := by
      simp [Check.anyOwnerSuffices, hpolicy]
    rw [modification, modification, hupdate, hdelete]
    exact congrArg Logged.reported (change_alike halike hsuffices precursor)

theorem dispatch_alike (halike : i.FoundAlike i')
    (htreats : profile.TreatsAlike i.action i'.action) (precursor : Option Document) :
    dispatch profile ⟨i, d⟩ precursor = dispatch profile ⟨i', d⟩ precursor := by
  have hmodification : modification profile ⟨i, d⟩ = modification profile ⟨i', d⟩ :=
    funext (modification_alike halike htreats)
  generalize haction : i.action = asked at htreats
  generalize haction' : i'.action = asked' at htreats
  cases htreats with
  | same action =>
    have hsame := haction.trans haction'.symm
    rw [dispatch, dispatch, action_eq hsame, creation_alike halike hsame, hmodification]
  | changes hpolicy =>
    have hupdate : action ⟨i, d⟩ = .ok .update := by simp only [action, haction]
    have hdelete : action ⟨i', d⟩ = .ok .delete := by simp only [action, haction']
    rw [dispatch, dispatch, hupdate, hdelete, hmodification]

end

end Envelope

/-! ## Questions -/

theorem Question.check_alike {profile : Profile} {question : Question} {d : Document}
    {precursor : Option Document} {i i' : Instruction} (halike : i.FoundAlike i')
    (htreats : profile.TreatsAlike i.action i'.action)
    (hcreation : question = .creation → i.action = i'.action) :
    question.check profile ⟨i, d⟩ precursor = question.check profile ⟨i', d⟩ precursor := by
  cases question with
  | creation => exact congrArg some (Envelope.creation_alike halike (hcreation rfl))
  | modification =>
    have hmodification := funext (Envelope.modification_alike (d := d) halike htreats)
    exact congrArg precursor.map hmodification
  | dispatch => exact Envelope.dispatch_alike halike htreats precursor

/-- Two instructions whose signatures are found alike are answered alike; only a creation tells apart the
actions that it refuses. -/
theorem Question.answer_alike {profile : Profile} {question : Question}
    {instruction instruction' document : String} {precursor : Option String} {i i' : Instruction}
    (h : Instruction.parse instruction = .ok i) (h' : Instruction.parse instruction' = .ok i')
    (halike : i.FoundAlike i') (htreats : profile.TreatsAlike i.action i'.action)
    (hcreation : question = .creation → i.action = i'.action) :
    question.answer profile instruction document precursor =
      question.answer profile instruction' document precursor := by
  cases hdocument : Document.parse document with
  | error reason => simp [answer, Envelope.parse, h, h', hdocument]
  | ok d =>
    have henvelope : Envelope.parse instruction document = .ok ⟨i, d⟩ :=
      Envelope.parse_eq_ok_iff.2 ⟨h, hdocument⟩
    have henvelope' : Envelope.parse instruction' document = .ok ⟨i', d⟩ :=
      Envelope.parse_eq_ok_iff.2 ⟨h', hdocument⟩
    cases hcurrent : precursor.mapM Document.parse with
    | error reason => simp only [answer, henvelope, henvelope', hcurrent]
    | ok current =>
      rw [answer_eq_check henvelope hcurrent, answer_eq_check henvelope' hcurrent,
        check_alike halike htreats hcreation]

end DidAdmission
