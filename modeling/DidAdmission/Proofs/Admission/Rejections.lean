-- SUMMARY: Why envelopes are rejected: for the earliest clause that they violate.
import DidAdmission.Admission.History
import DidAdmission.Proofs.Admission.Acceptance
import DidAdmission.Proofs.Admission.Violations

/-!
# Rejections

Each check fails when one clause is violated, with the rejection that reports it. The stages put
checks together, so they report the clauses one after another.
-/

namespace DidAdmission

/-! ## Entries -/

theorem readEntries_eq_error_iff {α : Type} {object : Json.Object} {field : String}
    {ofEntry : Json → Except ReadFailure α} {failure : ReadFailure} :
    (object.optionalArray field >>= List.mapM ofEntry) = .error failure ↔
      Unreadable object field ofEntry failure := by
  rw [bind_eq_error_iff, Unreadable]
  exact or_congr_right <| exists_congr fun items => and_congr_right fun _ =>
    mapM_reports ofEntry items failure

theorem Instruction.signatures_eq_error_iff {i : Instruction} {failure : ReadFailure} :
    i.signatures = .error failure ↔
      Unreadable i.submission.object "signatures" Signature.ofEntry failure :=
  readEntries_eq_error_iff

theorem Document.publicKeys_eq_error_iff {d : Document} {failure : ReadFailure} :
    d.publicKeys = .error failure ↔
      Unreadable d.submission.object "publicKey" PublicKey.ofEntry failure :=
  readEntries_eq_error_iff

namespace Check

/-! ## One document -/

theorem ownTimes_eq_error_iff {created updated : Option Timestamp} {r : Rejection} :
    ownTimes created updated = .error r ↔
      ∃ c u, created = some c ∧ updated = some u ∧ c.before u = false ∧ .temporalOrder = r := by
  cases created with
  | none => simp [ownTimes]
  | some c =>
    cases updated with
    | none => simp [ownTimes]
    | some u => simp [ownTimes, ite_eq_error_iff]

/-- What the search finds is repeated, or was seen before, and is the first such item. -/
theorem firstRepeated?_eq_some_iff {α : Type} {name : α → Uri} {seen : List String} {xs : List α}
    {x : α} :
    firstRepeated? name seen xs = some x ↔
      ∃ earlier later, xs = earlier ++ x :: later ∧
        ((earlier.map fun y => (name y).text).Nodup ∧ ∀ y ∈ earlier, (name y).text ∉ seen) ∧
        ((name x).text ∈ seen ∨ (name x).text ∈ earlier.map fun y => (name y).text) := by
  induction xs generalizing seen with
  | nil => simp [firstRepeated?]
  | cons y ys ih =>
    by_cases hseen : (name y).text ∈ seen
    · simp only [firstRepeated?, List.contains_eq_mem, hseen, decide_true, if_true,
        Option.some.injEq]
      constructor
      · rintro rfl
        exact ⟨[], ys, rfl, by simp, .inl hseen⟩
      · rintro ⟨earlier, later, hsplit, ⟨-, hnew⟩, -⟩
        rcases List.cons_eq_append_iff.1 hsplit with ⟨rfl, hcons⟩ | ⟨rest, rfl, -⟩
        · exact (List.cons.inj hcons).1.symm
        · exact absurd hseen (hnew y List.mem_cons_self)
    · simp only [firstRepeated?, List.contains_eq_mem, hseen, decide_false, Bool.false_eq_true,
        if_false, ih]
      constructor
      · rintro ⟨earlier, later, rfl, ⟨hnodup, hnew⟩, hx⟩
        refine ⟨y :: earlier, later, rfl, ⟨?_, ?_⟩, ?_⟩
        · refine List.nodup_cons.2 ⟨fun hy => ?_, hnodup⟩
          obtain ⟨z, hz, hzy⟩ := List.mem_map.1 hy
          exact hnew z hz (hzy ▸ List.mem_cons_self)
        · exact List.forall_mem_cons.2 ⟨hseen, fun z hz hmem =>
            hnew z hz (List.mem_cons_of_mem _ hmem)⟩
        · rw [List.mem_cons, or_comm (a := _ = _), or_assoc] at hx
          rwa [List.map_cons, List.mem_cons]
      · rintro ⟨earlier, later, hsplit, ⟨hnodup, hnew⟩, hx⟩
        rcases List.cons_eq_append_iff.1 hsplit with ⟨rfl, hcons⟩ | ⟨rest, rfl, rfl⟩
        · obtain ⟨rfl, -⟩ := List.cons.inj hcons
          exact absurd hx (by simp [hseen])
        · obtain ⟨hy, hnodup⟩ := List.nodup_cons.1 hnodup
          refine ⟨rest, later, rfl, ⟨hnodup, fun z hz hmem => ?_⟩, ?_⟩
          · rcases List.mem_cons.1 hmem with heq | hmem
            · exact hy (List.mem_map.2 ⟨z, hz, heq⟩)
            · exact hnew z (List.mem_cons_of_mem _ hz) hmem
          · rw [List.map_cons, List.mem_cons, ← or_assoc, or_comm (b := _ = _)] at hx
            rwa [List.mem_cons]

theorem firstRepeated?_nil_eq_some_iff {α : Type} {name : α → Uri} {xs : List α} {x : α} :
    firstRepeated? name [] xs = some x ↔ FirstRepeated (fun y => (name y).text) xs x := by
  rw [firstRepeated?_eq_some_iff]
  simp [FirstRepeated]

theorem distinctTargets_eq_error_iff {signatures : List Signature} {r : Rejection} :
    distinctTargets signatures = .error r ↔
      ∃ signature, FirstRepeated (·.target.text) signatures signature ∧
        .repeatedTarget signature.target = r := by
  have hfirst := @firstRepeated?_nil_eq_some_iff _ Signature.target signatures
  simp only [← hfirst, distinctTargets]
  cases firstRepeated? Signature.target [] signatures <;> simp

theorem distinctKeyIds_eq_error_iff {keys : List PublicKey} {r : Rejection} :
    distinctKeyIds keys = .error r ↔
      ∃ key, FirstRepeated (·.id.text) keys key ∧ .repeatedKeyId key.id = r := by
  have hfirst := @firstRepeated?_nil_eq_some_iff _ PublicKey.id keys
  simp only [← hfirst, distinctKeyIds]
  cases firstRepeated? PublicKey.id [] keys <;> simp

theorem someKeys_eq_error_iff {keys : List PublicKey} {r : Rejection} :
    someKeys keys = .error r ↔ keys = [] ∧ .noKeys = r := by
  cases keys <;> simp [someKeys]

theorem signatureCount_eq_error_iff {profile : Profile} {stage : Stage} {keys signatures : Nat}
    {r : Rejection} :
    signatureCount profile stage keys signatures = .error r ↔
      (signatures < keys ∨ (stage = .creation ∧ profile.signatureCount = .exactForCreation ∧
        signatures ≠ keys)) ∧ .signatureCount keys signatures = r := by
  have hok := @signatureCount_eq_ok_iff profile stage keys signatures
  unfold signatureCount at hok ⊢
  rw [ite_eq_ok_iff] at hok
  rw [ite_eq_error_iff, hok, Classical.not_and_iff_not_or_not, Nat.not_le]
  simp only [Classical.not_imp]

/-- A search for an offender finds the first key that does not comply. -/
theorem find?_not_eq_some_iff {complies : PublicKey → Bool} {keys : List PublicKey}
    {key : PublicKey} :
    (keys.find? fun key => !complies key) = some key ↔
      FirstWith (fun key => complies key = false) keys key := by
  simp [find?_eq_some_iff_firstWith]

theorem supportedSuites_eq_error_iff {profile : Profile} {keys : List PublicKey} {r : Rejection} :
    supportedSuites profile keys = .error r ↔
      ∃ key, FirstWith (fun key => profile.supports key.suite = false) keys key ∧
        .unsupportedSuite key.suite = r := by
  simp only [← find?_not_eq_some_iff, supportedSuites]
  cases keys.find? fun key => !profile.supports key.suite <;> simp

theorem anchoredKeys_eq_error_iff {id : Identifier} {keys : List PublicKey} {r : Rejection} :
    anchoredKeys id keys = .error r ↔
      ∃ key, FirstWith (fun key => key.isAnchoredIn id.text = false) keys key ∧
        .foreignKeyId key.id = r := by
  simp only [← find?_not_eq_some_iff, anchoredKeys]
  cases keys.find? fun key => !key.isAnchoredIn id.text <;> simp

/-! ## Signatures of keys -/

theorem lastTargeting?_eq_none_iff {signatures : List Signature} {key : PublicKey} :
    lastTargeting? signatures key = none ↔
      ∀ signature ∈ signatures, signature.target.text ≠ key.id.text := by
  simp [lastTargeting?, Uri.same]

/-- Pairing stops at the first key that no signature targets. -/
theorem pairs_eq_error_iff {keys : List PublicKey} {signatures : List Signature} {r : Rejection} :
    pairs keys signatures = .error r ↔
      ∃ key, FirstWith (fun key => ∀ signature ∈ signatures,
        signature.target.text ≠ key.id.text) keys key ∧ .untargetedKey key.id = r := by
  refine (mapM_reports _ keys r).trans (earliest_iff_firstWith fun key r => ?_)
  rw [← lastTargeting?_eq_none_iff]
  cases lastTargeting? signatures key <;> simp

/-- Some signature that targets a key has the property when the one it is paired with has it. -/
theorem exists_targeting_iff {keys : List PublicKey} {signatures : List Signature}
    {ps : List (PublicKey × Signature)} (htargets : (signatures.map (·.target.text)).Nodup)
    (hps : pairs keys signatures = .ok ps) {p : PublicKey × Signature} (hp : p ∈ ps)
    {holds : Signature → Prop} :
    (∃ signature ∈ signatures, signature.target.text = p.1.id.text ∧ holds signature) ↔
      holds p.2 := by
  obtain ⟨-, hlast⟩ := (mem_pairs_iff hps).1 hp
  rw [lastTargeting?_eq_targeting? htargets] at hlast
  obtain ⟨hmem, htarget⟩ := (targeting?_eq_some_iff htargets).1 hlast
  constructor
  · rintro ⟨signature, hsignature, htarget', hholds⟩
    have hfound := (targeting?_eq_some_iff htargets).2 ⟨hsignature, htarget'⟩
    obtain rfl : p.2 = signature := Option.some.inj (hlast.symm.trans hfound)
    exact hholds
  · exact fun hholds => ⟨p.2, hmem, htarget, hholds⟩

/-- The first key one of whose signatures has the property is in the first pair that has it. -/
theorem firstWith_pairs_iff {keys : List PublicKey} {signatures : List Signature}
    {ps : List (PublicKey × Signature)} (htargets : (signatures.map (·.target.text)).Nodup)
    (hps : pairs keys signatures = .ok ps) {holds : PublicKey → Signature → Prop}
    {key : PublicKey} :
    FirstWith (fun key => ∃ signature ∈ signatures,
        signature.target.text = key.id.text ∧ holds key signature) keys key ↔
      ∃ p, FirstWith (fun p => holds p.1 p.2) ps p ∧ p.1 = key := by
  have hkeys : keys = ps.map Prod.fst := by
    have hmap := congrArg (List.map Prod.fst) (pairs_eq_ok_iff.1 hps)
    simpa [Function.comp_def] using hmap
  rw [hkeys, firstWith_map]
  refine exists_congr fun p => and_congr_left fun _ => firstWith_congr fun q hq => ?_
  exact exists_targeting_iff htargets hps hq

theorem sameSuite_eq_error_iff {key : PublicKey} {signature : Signature} {r : Rejection} :
    sameSuite key signature = .error r ↔
      key.suite ≠ signature.suite ∧ .suiteMismatch key.id key.suite signature.suite = r :=
  ite_eq_error_iff

theorem sameSuites_reports (ps : List (PublicKey × Signature)) :
    Reports (fun p r => sameSuite p.1 p.2 = .error r) ps (sameSuites ps) := by
  induction ps with
  | nil => exact .ok ()
  | cons p ps ih => exact .cons (fun _ => .rfl) fun _ _ => ih

/-- The first pair of two suites is reported. -/
theorem sameSuites_eq_error_iff {ps : List (PublicKey × Signature)} {r : Rejection} :
    sameSuites ps = .error r ↔
      ∃ p, FirstWith (fun p => p.1.suite ≠ p.2.suite) ps p ∧
        .suiteMismatch p.1.id p.1.suite p.2.suite = r := by
  rw [sameSuites_reports ps r]
  refine earliest_iff_firstWith ?_
  exact fun _ _ => sameSuite_eq_error_iff

theorem outcome_validSignature_eq_error_iff {message : Bytes} {key : PublicKey}
    {signature : Signature} {r : Rejection} :
    (validSignature message key signature).outcome = .error r ↔
      verifies message key signature = false ∧ .invalidSignature key.id = r := by
  simp only [validSignature, Logged.outcome_bind, verifyPair, ok_bind]
  cases verifies message key signature <;> simp [Logged.accept, Logged.reject]

theorem validSignatures_reports (message : Bytes) (ps : List (PublicKey × Signature)) :
    Reports (fun p r => (validSignature message p.1 p.2).outcome = .error r) ps
      (validSignatures message ps).outcome := by
  induction ps with
  | nil => exact .ok ()
  | cons p ps ih =>
    rw [validSignatures, Logged.outcome_bind]
    exact .cons (fun _ => .rfl) fun _ _ => ih

/-- The first pair whose signature does not verify is reported. -/
theorem outcome_validSignatures_eq_error_iff {message : Bytes} {ps : List (PublicKey × Signature)}
    {r : Rejection} :
    (validSignatures message ps).outcome = .error r ↔
      ∃ p, FirstWith (fun p => verifies message p.1 p.2 = false) ps p ∧
        .invalidSignature p.1.id = r := by
  rw [validSignatures_reports message ps r]
  refine earliest_iff_firstWith ?_
  exact fun _ _ => outcome_validSignature_eq_error_iff

/-! ## A document and its precursor -/

/-- Whether the times of a document succeed those of its precursor, check by check. -/
theorem succession_eq {document precursor : Document} {created updated : Option Timestamp}
    (hcreated : document.created = .ok created) (hupdated : document.updated = .ok updated) :
    succession document precursor =
      precursor.created.mapError .malformedPrecursor >>= fun before =>
      (if before = created then .ok () else .error .temporalOrder) >>= fun _ =>
      updated.elim (.error .missingUpdated) .ok >>= fun now =>
      precursor.updated.mapError .malformedPrecursor >>= fun previous =>
      if ∀ time ∈ previous, time.before now = true then .ok () else .error .temporalOrder := by
  simp only [succession, hcreated, hupdated]
  cases precursor.created with
  | error failure => rfl
  | ok before =>
    by_cases hsame : before = created
    · cases updated with
      | none => simp [hsame]
      | some now =>
        cases precursor.updated with
        | error failure => simp [hsame]
        | ok previous =>
          cases previous with
          | none => simp [hsame]
          | some time => simp [hsame]
    · simp [hsame]

/-- The signature of an owner falls short in the way that is reported. -/
theorem outcome_ownerSigned_eq_error_iff {message : Bytes} {signatures : List Signature}
    (htargets : (signatures.map (·.target.text)).Nodup) {owner : PublicKey} {r : Rejection} :
    (ownerSigned message signatures owner).outcome = .error r ↔
      owner.Shortfall message signatures r := by
  have hsearch : ∀ signature, _ ↔ _ := fun signature =>
    @targeting?_eq_some_iff signatures htargets owner signature
  unfold ownerSigned
  cases htargeting : targeting? signatures owner with
  | none =>
    rw [htargeting] at hsearch
    have hmissing : ∀ signature ∈ signatures, signature.target.text ≠ owner.id.text :=
      fun signature hmem htarget => absurd ((hsearch signature).2 ⟨hmem, htarget⟩) (by simp)
    constructor
    · rintro ⟨⟩
      exact .missing hmissing
    · rintro (_ | ⟨hmem, htarget⟩ | ⟨hmem, htarget⟩)
      · rfl
      · exact absurd htarget (hmissing _ hmem)
      · exact absurd htarget (hmissing _ hmem)
  | some found =>
    rw [htargeting] at hsearch
    obtain ⟨hmem, htarget⟩ := (hsearch found).1 rfl
    simp only [Logged.outcome_bind, Logged.outcome_ofExcept, bind_eq_error_iff,
      sameSuite_eq_error_iff, outcome_validSignature_eq_error_iff]
    constructor
    · rintro (⟨hsuite, rfl⟩ | ⟨_, hsuite, hinvalid, rfl⟩)
      · exact .mismatch hmem htarget hsuite
      · exact .invalid hmem htarget (ite_eq_ok_iff.1 hsuite) hinvalid
    · rintro (hmissing | ⟨hmem', htarget', hsuite⟩ | ⟨hmem', htarget', hsuite, hinvalid⟩)
      · exact absurd htarget (hmissing found hmem)
      · obtain rfl := Option.some.inj ((hsearch _).2 ⟨hmem', htarget'⟩)
        exact .inl ⟨hsuite, rfl⟩
      · obtain rfl := Option.some.inj ((hsearch _).2 ⟨hmem', htarget'⟩)
        exact .inr ⟨(), ite_eq_ok_iff.2 hsuite, hinvalid, rfl⟩

theorem ownersSigned_reports (message : Bytes) (signatures : List Signature)
    (owners : List PublicKey) :
    Reports (fun owner r => (ownerSigned message signatures owner).outcome = .error r) owners
      (ownersSigned message signatures owners).outcome := by
  induction owners with
  | nil => exact .ok ()
  | cons owner rest ih =>
    rw [ownersSigned, Logged.outcome_bind]
    exact .cons (fun _ => .rfl) fun _ _ => ih

/-- The first owner that has not signed is reported, with how its signature falls short. -/
theorem outcome_ownersSigned_eq_error_iff {message : Bytes} {signatures : List Signature}
    (htargets : (signatures.map (·.target.text)).Nodup) {owners : List PublicKey} {r : Rejection} :
    (ownersSigned message signatures owners).outcome = .error r ↔
      ∃ owner, FirstWith (fun owner => ¬ owner.HasSigned message signatures) owners owner ∧
        owner.Shortfall message signatures r := by
  rw [ownersSigned_reports message signatures owners r, Earliest]
  simp only [outcome_ownerSigned_eq_error_iff htargets]
  refine exists_congr fun owner => and_congr_left fun _ => firstWith_congr fun o _ => ?_
  rw [← outcome_ownerSigned_eq_ok_iff htargets]
  simp only [← outcome_ownerSigned_eq_error_iff htargets]
  cases (ownerSigned message signatures o).outcome <;> simp

end Check

namespace Envelope

variable {profile : Profile} {e : Envelope} {precursor : Option Document}

/-! ## The stages -/

/-- The stage at which an envelope is judged: a change if there is a precursor. -/
def stageFor : Option Document → Check.Stage
  | none => .creation
  | some _ => .modification

theorem stageFor_eq_creation_iff : stageFor precursor = .creation ↔ precursor = none := by
  cases precursor <;> simp [stageFor]

theorem checkStructure_reports (profile : Profile) (e : Envelope) (precursor : Option Document) :
    Reports (e.Violates profile precursor) Clause.ofStructure
      (e.checkStructure profile (stageFor precursor)) := by
  unfold checkStructure
  refine .cons (fun r => mapError_eq_error_iff) fun _ _ =>
    .cons (fun r => mapError_eq_error_iff) fun created hcreated =>
    .cons (fun r => mapError_eq_error_iff) fun updated hupdated =>
    .cons (fun r => ?ownTimes) fun _ _ =>
    .cons (fun r => ?signatures) fun signatures hsignatures =>
    .cons (fun r => ?distinctTargets) fun _ _ =>
    .cons (fun r => ?keys) fun keys hkeys =>
    .cons (fun r => ?distinctKeyIds) fun _ _ =>
    .cons (fun r => ?someKey) fun _ _ =>
    .cons (fun r => ?signatureCount) fun _ _ =>
    .cons (fun r => ?supportedSuites) fun _ _ =>
    .cons (fun r => mapError_eq_error_iff) fun id hid =>
    .cons (fun r => ?anchoredKeys) fun _ _ => .ok _
  case signatures =>
    simp only [mapError_eq_error_iff, Instruction.signatures_eq_error_iff, Violates]
  case keys =>
    simp only [mapError_eq_error_iff, Document.publicKeys_eq_error_iff, Violates]
  all_goals simp only [mapError_eq_ok_iff] at hcreated hupdated
  case ownTimes =>
    simp only [Violates, hcreated, hupdated, Except.ok.injEq]
    exact Check.ownTimes_eq_error_iff
  all_goals simp only [mapError_eq_ok_iff] at hsignatures
  case distinctTargets =>
    simp only [Violates, hsignatures, Except.ok.injEq, exists_eq_left']
    exact Check.distinctTargets_eq_error_iff
  all_goals simp only [mapError_eq_ok_iff] at hkeys
  case distinctKeyIds =>
    simp only [Violates, hkeys, Except.ok.injEq, exists_eq_left']
    exact Check.distinctKeyIds_eq_error_iff
  case someKey =>
    simp only [Violates, hkeys, Except.ok.injEq]
    exact Check.someKeys_eq_error_iff
  case signatureCount =>
    simp only [Violates, hkeys, hsignatures, Except.ok.injEq, exists_and_left, exists_eq_left',
      ← stageFor_eq_creation_iff]
    exact Check.signatureCount_eq_error_iff
  case supportedSuites =>
    simp only [Violates, hkeys, Except.ok.injEq, exists_eq_left']
    exact Check.supportedSuites_eq_error_iff
  case anchoredKeys =>
    rw [mapError_eq_ok_iff] at hid
    simp only [Violates, hid, hkeys, Except.ok.injEq, exists_and_left, exists_eq_left']
    exact Check.anchoredKeys_eq_error_iff

theorem pairs_reports {p : Particulars} (hp : e.Declares profile p)
    (htargets : (p.signatures.map (·.target.text)).Nodup) :
    Reports (e.Violates profile precursor) Clause.ofSignatures
      (Check.pairs p.keys p.signatures >>= fun ps => Check.sameSuites ps >>= fun _ =>
        (Check.validSignatures e.document.bytes ps).outcome) := by
  refine .cons (fun r => ?targetedKeys) fun ps hps => .cons (fun r => ?sameSuites) fun _ _ =>
    .of_iff fun r => ?validSignatures
  all_goals
    simp only [Violates, hp.keys, hp.signatures, Except.ok.injEq, exists_and_left, exists_eq_left']
  case targetedKeys => exact Check.pairs_eq_error_iff
  case sameSuites =>
    simp only [Check.sameSuites_eq_error_iff, Check.firstWith_pairs_iff htargets hps]
    constructor
    · rintro ⟨q, hfirst, rfl⟩
      exact ⟨q.1, ⟨q, hfirst, rfl⟩,
        (Check.exists_targeting_iff htargets hps hfirst.mem).2 ⟨hfirst.holds, rfl⟩⟩
    · rintro ⟨_, ⟨q, hfirst, rfl⟩, hs⟩
      exact ⟨q, hfirst, ((Check.exists_targeting_iff htargets hps hfirst.mem).1 hs).2⟩
  case validSignatures =>
    simp only [Check.outcome_validSignatures_eq_error_iff, Check.firstWith_pairs_iff htargets hps]
    constructor
    · rintro ⟨q, hfirst, rfl⟩
      exact ⟨q.1, ⟨q, hfirst, rfl⟩, rfl⟩
    · rintro ⟨_, ⟨q, hfirst, rfl⟩, rfl⟩
      exact ⟨q, hfirst, rfl⟩

/-- The checks of one document report the clauses about it. -/
theorem checkBase_reports (profile : Profile) (e : Envelope) (precursor : Option Document) :
    Reports (e.Violates profile precursor) (Clause.ofStructure ++ Clause.ofSignatures)
      (e.checkBase profile (stageFor precursor)).outcome := by
  simp only [checkBase, Logged.outcome_bind, Logged.outcome_ofExcept, Logged.outcome_note, ok_bind]
  refine (checkStructure_reports profile e precursor).append fun found hfound => ?_
  obtain ⟨p, hp, hwf, rfl⟩ := checkStructure_eq_ok_iff.1 hfound
  have hpairs := (@pairs_reports profile e precursor p hp hwf.targets).append fun _ _ =>
    Reports.ok p.signatures
  simpa [bind_assoc, Logged.accept] using hpairs

theorem succession_reports {p : Particulars} {d : Document} (hp : e.Declares profile p) :
    Reports (e.Violates profile (some d)) Clause.ofSuccession (Check.succession e.document d) := by
  rw [Check.succession_eq hp.created hp.updated]
  refine .cons (fun r => ?precursorCreated) fun before hbefore => .cons (fun r => ?sameCreated)
    fun _ _ => .cons (fun r => ?updatedGiven) fun now hnow => .cons (fun r => ?precursorUpdated)
    fun previous hprevious => .of_iff fun r => ?laterUpdate
  case precursorCreated =>
    simp [Violates, mapError_eq_error_iff]
  case sameCreated =>
    rw [mapError_eq_ok_iff] at hbefore
    simp [Violates, ite_eq_error_iff, hbefore, hp.created]
  case updatedGiven =>
    cases hupdated : p.updated <;> simp [Violates, hp.updated, hupdated]
  case precursorUpdated =>
    simp [Violates, mapError_eq_error_iff]
  case laterUpdate =>
    rw [mapError_eq_ok_iff] at hprevious
    have hnow : p.updated = some now := by
      cases hupdated : p.updated <;> simp_all
    cases previous <;> simp [Violates, ite_eq_error_iff, hprevious, hp.updated, hnow]

theorem ownership_reports {p : Particulars} {d : Document} {action : Action}
    (haction : e.action = .ok action) (hp : e.Declares profile p)
    (htargets : (p.signatures.map (·.target.text)).Nodup) :
    Reports (e.Violates profile (some d)) Clause.ofOwnership
      (Check.ownership profile action e.document d p.signatures).outcome := by
  rw [Check.ownership, Logged.outcome_bind, Logged.outcome_ofExcept]
  refine .cons (fun r => ?precursorKeys) fun owners howners => .of_iff fun r => ?ownership
  case precursorKeys =>
    simp [Violates, mapError_eq_error_iff, Document.publicKeys_eq_error_iff]
  case ownership =>
    rw [mapError_eq_ok_iff] at howners
    simp only [Violates, haction, howners, hp.signatures, Option.some.injEq, Except.ok.injEq,
      exists_and_left, exists_eq_left', Check.anyOwnerSuffices, Bool.and_eq_true, beq_iff_eq]
    split
    · have hnone : (∀ owner ∈ owners, ¬ owner.HasSigned e.document.bytes p.signatures) ↔
          ((Check.claims owners p.signatures).any fun q =>
            Check.verifies e.document.bytes q.1 q.2) = false := by
        rw [← Bool.not_eq_true, Check.any_claims_iff, not_exists]
        simp only [not_and]
      rw [Logged.outcome_bind, Check.outcome_anyVerifies, ok_bind, hnone]
      cases (Check.claims owners p.signatures).any fun q =>
        Check.verifies e.document.bytes q.1 q.2 <;> simp [Logged.accept, Logged.reject]
    · rw [Logged.outcome_bind, bind_eq_error_iff, Check.outcome_ownersSigned_eq_error_iff htargets]
      simp [Logged.outcome_note]

/-- A creation reports all clauses, since those about a precursor cannot be violated. -/
theorem creation_reports (haction : e.action = .ok .create) :
    Reports (e.Violates profile none) Clause.all (e.creation profile).outcome := by
  rw [creation, Logged.outcome_reported, Logged.outcome_bind, Logged.outcome_ofExcept,
    creatingAction_eq_ok_iff.2 haction, ok_bind, Logged.outcome_bind]
  refine (checkBase_reports profile e none).append fun _ _ r => ?_
  have hnone : ¬ Earliest (e.Violates profile none) (Clause.ofSuccession ++ Clause.ofOwnership) r := by
    rintro ⟨c, hfirst, hc⟩
    have hmem := hfirst.mem
    simp only [Clause.ofSuccession, Clause.ofOwnership, List.cons_append, List.nil_append,
      List.mem_cons, List.not_mem_nil, or_false] at hmem
    rcases hmem with rfl | rfl | rfl | rfl | rfl | rfl | rfl <;> simp [Violates] at hc
  simp [hnone, Logged.accept]

theorem modification_reports {d : Document}
    (haction : e.action = .ok .update ∨ e.action = .ok .delete) :
    Reports (e.Violates profile (some d)) Clause.all (e.modification profile d).outcome := by
  obtain ⟨action, hchanges, hchanging⟩ :
      ∃ action, e.action = .ok action ∧ e.changingAction = .ok action := by
    rcases haction with haction | haction
    · exact ⟨.update, haction, changingAction_eq_ok_iff.2 ⟨haction, .inl rfl⟩⟩
    · exact ⟨.delete, haction, changingAction_eq_ok_iff.2 ⟨haction, .inr rfl⟩⟩
  simp only [modification, Logged.outcome_reported, Logged.outcome_bind, Logged.outcome_ofExcept,
    hchanging, ok_bind]
  refine (checkBase_reports profile e (some d)).append fun signatures hbase => ?_
  obtain ⟨p, hp, hadmissible, rfl⟩ := outcome_checkBase_eq_ok_iff.1 hbase
  exact (succession_reports hp).append fun _ _ =>
    ownership_reports hchanges hp hadmissible.targets

/-- An envelope whose action suits is rejected for the earliest clause that it violates. -/
theorem rejects_earliest_violation (profile : Profile) (e : Envelope) :
    (e.action = .ok .create → ∀ r,
      ((e.creation profile).outcome = .error r ↔
        Earliest (e.Violates profile none) Clause.all r)) ∧
    ∀ d, (e.action = .ok .update ∨ e.action = .ok .delete) → ∀ r,
      ((e.modification profile d).outcome = .error r ↔
        Earliest (e.Violates profile (some d)) Clause.all r) :=
  ⟨creation_reports, fun _ => modification_reports⟩

/-! ## An envelope with two flaws

The signature of the first key is not valid, and that of the second one is of another suite. -/

/-- The id of the document, or of a key of it. -/
def didText (fragment : String) : String :=
  "did:a:net:00000000-0000-0000-0000-000000000003" ++ fragment

def flawedKeyText (fragment : String) : String :=
  "\x7b\"id\":\"" ++ didText fragment
    ++ "\",\"type\":\"Ed25519VerificationKey2018\",\"controller\":\"" ++ didText "" ++ "\",\"publicKeyHex\":\"00\"\x7d"

def flawedText : String :=
  "\x7b\"@context\":\"x\",\"id\":\"" ++ didText "" ++ "\",\"publicKey\":["
    ++ flawedKeyText "#a" ++ "," ++ flawedKeyText "#b" ++ "]\x7d"

def flawedSignatureText (fragment type : String) : String :=
  "\x7b\"id\":\"" ++ didText fragment ++ "\",\"type\":\"" ++ type ++ "\",\"signatureHex\":\"00\"\x7d"

def flawedOrder : String :=
  orderText "create" <|
    flawedSignatureText "#a" "Ed25519Signature2018" ++ "," ++ flawedSignatureText "#b" "RsaSignature2018"

def flawedKeyEntry (fragment : String) : Json :=
  .object
    [("controller", .text (didText "")), ("id", .text (didText fragment)), ("publicKeyHex", .text "00"),
     ("type", .text "Ed25519VerificationKey2018")]

def flawedSignatureEntry (fragment type : String) : Json :=
  .object [("id", .text (didText fragment)), ("signatureHex", .text "00"), ("type", .text type)]

def flawed : Envelope where
  instruction.submission.text := flawedOrder
  instruction.submission.object :=
    [("action", .text "create"),
     ("signatures", .array
       [flawedSignatureEntry "#a" "Ed25519Signature2018", flawedSignatureEntry "#b" "RsaSignature2018"])]
  document.submission.text := flawedText
  document.submission.object :=
    [("@context", .text "x"), ("id", .text (didText "")),
     ("publicKey", .array [flawedKeyEntry "#a", flawedKeyEntry "#b"])]

set_option maxRecDepth 20000 in
theorem parse_flawed : parse flawedOrder flawedText = .ok flawed := by
  have horder : Json.read flawedOrder = .ok (.object flawed.instruction.submission.object) := by
    unfold Json.read flawedOrder orderText flawedSignatureText didText
    simp only [String.toList_append]
    repeat rw [String.toList_ofList]
    rfl
  have htext : Json.read flawedText = .ok (.object flawed.document.submission.object) := by
    unfold Json.read flawedText flawedKeyText didText
    simp only [String.toList_append]
    repeat rw [String.toList_ofList]
    rfl
  exact parse_of_read horder htext

def flawedKey (fragment : String) : PublicKey where
  id := ⟨"did", none, .verbatim "a:net:00000000-0000-0000-0000-000000000003", none, some fragment⟩
  suite := .ed25519
  controller := ⟨"did", none, .verbatim "a:net:00000000-0000-0000-0000-000000000003", none, none⟩
  encoding := .hex
  bytes := [0]

def flawedSignature (fragment : String) (suite : Suite) : Signature :=
  ⟨suite, (flawedKey fragment).id, .hex, [0]⟩

theorem flawed_keys : flawed.document.publicKeys = .ok [flawedKey "a", flawedKey "b"] :=
  toOption_eq_some_iff.1 (by decide +kernel)

theorem flawed_signatures :
    flawed.instruction.signatures = .ok [flawedSignature "a" .ed25519, flawedSignature "b" .rsa] :=
  toOption_eq_some_iff.1 (by decide +kernel)

/-- An update of nothing to nothing. -/
def blank : Envelope where
  instruction.submission.text := "\x7b\"action\":\"update\"\x7d"
  instruction.submission.object := [("action", .text "update")]
  document.submission.text := "\x7b\x7d"
  document.submission.object := []

/-- The invalid signature stands before the one of another suite, but is not what is reported. Of all
that a blank update lacks, the context is reported. -/
theorem flawed_reports_mismatch :
    (parse flawedOrder flawedText = .ok flawed ∧ flawed.action = .ok .create ∧
      flawed.Violates .standard none .validSignatures (.invalidSignature (flawedKey "a").id) ∧
      Earliest (flawed.Violates .standard none) Clause.all
        (.suiteMismatch (flawedKey "b").id .ed25519 .rsa)) ∧
    blank.action = .ok .update ∧ blank.Violates .standard (some founding.document) .someKey .noKeys ∧
      Earliest (blank.Violates .standard (some founding.document)) Clause.all
        (.malformedDocument .missingContext) := by
  have haction : flawed.action = .ok .create := by rfl
  have hupdate : blank.action = .ok .update := by rfl
  have hnative : Suite.nativeKey? .ed25519 [0] = some [0] := by decide +kernel
  have hinvalid : Suite.verify .ed25519 flawed.document.bytes [0] [0] = false := by
    simp [Suite.verify, hnative, Suite.verifyNative, Ed25519.verify]
  have hfirst : FirstWith (fun key => ∃ s ∈ [flawedSignature "a" .ed25519, flawedSignature "b" .rsa],
      s.target.text = key.id.text ∧
        key.suite.verify flawed.document.bytes key.bytes s.bytes = false)
      [flawedKey "a", flawedKey "b"] (flawedKey "a") :=
    firstWith_cons.2 (.inl ⟨⟨_, List.mem_cons_self, rfl, hinvalid⟩, rfl⟩)
  have hcreation : (flawed.creation .standard).outcome =
      .error (.suiteMismatch (flawedKey "b").id .ed25519 .rsa) :=
    Judgement.verdict_ofLogged_eq_rejected_iff.1 (by decide +kernel)
  have hmodification : (blank.modification .standard founding.document).outcome =
      .error (.malformedDocument .missingContext) :=
    Judgement.verdict_ofLogged_eq_rejected_iff.1 (by decide +kernel)
  exact ⟨⟨parse_flawed, haction, ⟨_, _, flawed_keys, flawed_signatures, _, hfirst, rfl⟩,
      ((rejects_earliest_violation .standard flawed).1 haction _).1 hcreation⟩,
    hupdate, ⟨rfl, rfl⟩,
    ((rejects_earliest_violation .standard blank).2 _ (.inl hupdate) _).1 hmodification⟩

end Envelope

end DidAdmission
