-- SUMMARY: When each single check accepts.
import DidAdmission.Proofs.Admission.Conditions

/-!
# What each check accepts

One equivalence for each check. A search that finds the first offender accepts when there is none,
and the two ways of looking up the signature of a key agree because no two signatures have one
target.
-/

namespace DidAdmission.Check

/-! ## One document -/

theorem ownTimes_eq_ok_iff {created updated : Option Timestamp} :
    ownTimes created updated = .ok () ↔
      ∀ c ∈ created, ∀ u ∈ updated, c.before u = true := by
  cases created with
  | none => simp [ownTimes]
  | some c =>
    cases updated with
    | none => simp [ownTimes]
    | some u => simp [ownTimes]

/-- No name is repeated when all names are distinct and none was seen before. -/
theorem firstRepeated?_eq_none_iff {α : Type} {name : α → Uri} {seen : List String} {xs : List α} :
    firstRepeated? name seen xs = none ↔
      (xs.map fun x => (name x).text).Nodup ∧ ∀ x ∈ xs, (name x).text ∉ seen := by
  induction xs generalizing seen with
  | nil => simp [firstRepeated?]
  | cons x xs ih =>
    by_cases hseen : (name x).text ∈ seen
    · simp [firstRepeated?, hseen]
    · simp only [firstRepeated?, List.contains_eq_mem, hseen, decide_false, Bool.false_eq_true,
        if_false, ih, List.map_cons, List.nodup_cons, List.mem_map, List.mem_cons, not_or,
        forall_eq_or_imp, not_false_eq_true, true_and]
      constructor
      · rintro ⟨hnodup, hnew⟩
        exact ⟨⟨fun ⟨y, hy, heq⟩ => (hnew y hy).1 heq, hnodup⟩, fun y hy => (hnew y hy).2⟩
      · rintro ⟨⟨hx, hnodup⟩, hnew⟩
        exact ⟨hnodup, fun y hy => ⟨fun heq => hx ⟨y, hy, heq⟩, hnew y hy⟩⟩

theorem distinctTargets_eq_ok_iff {signatures : List Signature} :
    distinctTargets signatures = .ok () ↔ (signatures.map (·.target.text)).Nodup := by
  have hnone := @firstRepeated?_eq_none_iff _ Signature.target [] signatures
  unfold distinctTargets
  split <;> simp_all

theorem distinctKeyIds_eq_ok_iff {keys : List PublicKey} :
    distinctKeyIds keys = .ok () ↔ (keys.map (·.id.text)).Nodup := by
  have hnone := @firstRepeated?_eq_none_iff _ PublicKey.id [] keys
  unfold distinctKeyIds
  split <;> simp_all

theorem someKeys_eq_ok_iff {keys : List PublicKey} : someKeys keys = .ok () ↔ keys ≠ [] := by
  cases keys <;> simp [someKeys]

theorem signatureCount_eq_ok_iff {profile : Profile} {stage : Stage} {keys signatures : Nat} :
    signatureCount profile stage keys signatures = .ok () ↔
      keys ≤ signatures ∧
        (stage = .creation → profile.signatureCount = .exactForCreation → signatures = keys) := by
  unfold signatureCount
  rw [ite_eq_ok_iff]
  by_cases hexact : countsExactly profile stage = true
  · rw [if_pos hexact]
    simp only [countsExactly, Bool.and_eq_true, beq_iff_eq] at hexact
    simp only [hexact.1, hexact.2, forall_const]
    omega
  · rw [if_neg hexact]
    simp only [countsExactly, Bool.and_eq_true, beq_iff_eq, not_and] at hexact
    exact ⟨fun h => ⟨h, fun hstage hcount => absurd hcount (hexact hstage)⟩, And.left⟩

/-- A search for an offender finds none when all keys comply. -/
theorem find?_not_eq_none_iff {complies : PublicKey → Bool} {keys : List PublicKey} :
    (keys.find? fun key => !complies key) = none ↔ ∀ key ∈ keys, complies key = true := by
  simp [List.find?_eq_none]

theorem supportedSuites_eq_ok_iff {profile : Profile} {keys : List PublicKey} :
    supportedSuites profile keys = .ok () ↔ ∀ key ∈ keys, profile.supports key.suite = true := by
  rw [← find?_not_eq_none_iff, supportedSuites]
  split <;> simp_all

theorem anchoredKeys_eq_ok_iff {id : Identifier} {keys : List PublicKey} :
    anchoredKeys id keys = .ok () ↔ ∀ key ∈ keys, key.isAnchoredIn id.text = true := by
  rw [← find?_not_eq_none_iff, anchoredKeys]
  split <;> simp_all

/-! ## Signatures of keys -/

theorem targeting?_eq_some_iff {signatures : List Signature}
    (htargets : (signatures.map (·.target.text)).Nodup) {key : PublicKey} {signature : Signature} :
    targeting? signatures key = some signature ↔
      signature ∈ signatures ∧ signature.target.text = key.id.text := by
  induction signatures with
  | nil => simp [targeting?]
  | cons s rest ih =>
    obtain ⟨hs, hrest⟩ := List.nodup_cons.1 htargets
    by_cases hkey : s.target.text = key.id.text
    · simp only [targeting?, List.find?_cons, Uri.same, hkey, beq_self_eq_true, Option.some.injEq,
        List.mem_cons]
      constructor
      · rintro rfl
        exact ⟨.inl rfl, hkey⟩
      · rintro ⟨rfl | hmem, htarget⟩
        · rfl
        · exact absurd (List.mem_map.2 ⟨signature, hmem, htarget.trans hkey.symm⟩) hs
    · have hfind : targeting? (s :: rest) key = targeting? rest key := by
        simp [targeting?, Uri.same, hkey]
      rw [hfind, ih hrest]
      constructor
      · rintro ⟨hmem, htarget⟩
        exact ⟨List.mem_cons_of_mem s hmem, htarget⟩
      · rintro ⟨hmem, htarget⟩
        rcases List.mem_cons.1 hmem with rfl | hmem
        · exact absurd htarget hkey
        · exact ⟨hmem, htarget⟩

/-- The last signature for a key is the first one where no two signatures have one target. -/
theorem lastTargeting?_eq_targeting? {signatures : List Signature}
    (htargets : (signatures.map (·.target.text)).Nodup) (key : PublicKey) :
    lastTargeting? signatures key = targeting? signatures key := by
  have hreverse : (signatures.reverse.map (·.target.text)).Nodup := by
    rw [List.map_reverse]
    exact (List.reverse_perm _).nodup_iff.2 htargets
  have hlast : lastTargeting? signatures key = targeting? signatures.reverse key := by
    simp [lastTargeting?, targeting?]
  rw [hlast]
  ext signature
  rw [targeting?_eq_some_iff hreverse, targeting?_eq_some_iff htargets, List.mem_reverse]

/-- The pairs are the keys in their order, each with the signature found for it. -/
theorem pairs_eq_ok_iff {keys : List PublicKey} {signatures : List Signature}
    {ps : List (PublicKey × Signature)} :
    pairs keys signatures = .ok ps ↔
      keys.map (fun key => (key, lastTargeting? signatures key)) =
        ps.map fun p => (p.1, some p.2) := by
  induction keys generalizing ps with
  | nil => cases ps <;> simp [pairs, pure, Except.pure]
  | cons key keys ih =>
    have hcons : pairs (key :: keys) signatures = .ok ps ↔
        ∃ s rest, lastTargeting? signatures key = some s ∧ pairs keys signatures = .ok rest ∧
          (key, s) :: rest = ps := by
      rw [pairs, List.mapM_cons, bind_eq_ok_iff]
      simp only [bind_eq_ok_iff]
      cases hlast : lastTargeting? signatures key with
      | none => simp
      | some s => simp [pairs, pure, Except.pure]
    rw [hcons]
    cases ps with
    | nil => simp
    | cons p ps =>
      simp only [List.map_cons, List.cons.injEq, Prod.mk.injEq, ih]
      constructor
      · rintro ⟨s, rest, hlast, hrest, rfl, rfl⟩
        exact ⟨⟨rfl, hlast⟩, hrest⟩
      · rintro ⟨⟨rfl, hlast⟩, hrest⟩
        exact ⟨p.2, ps, hlast, hrest, rfl, rfl⟩

theorem sameSuites_eq_ok_iff {ps : List (PublicKey × Signature)} :
    sameSuites ps = .ok () ↔ ∀ p ∈ ps, p.1.suite = p.2.suite := by
  induction ps with
  | nil => simp [sameSuites, pure, Except.pure]
  | cons p ps ih =>
    have hcons : sameSuites (p :: ps) = (sameSuite p.1 p.2 >>= fun _ => sameSuites ps) := rfl
    rw [hcons, bind_unit_eq_ok_iff, ih, sameSuite, ite_eq_ok_iff, List.forall_mem_cons]

theorem outcome_validSignature_eq_ok_iff {message : Bytes} {key : PublicKey}
    {signature : Signature} :
    (validSignature message key signature).outcome = .ok () ↔
      verifies message key signature = true := by
  simp only [validSignature, Logged.outcome_bind_eq_ok_iff, verifyPair, Except.ok.injEq,
    exists_eq_left']
  cases verifies message key signature <;> simp [Logged.accept, Logged.reject]

theorem outcome_validSignatures_eq_ok_iff {message : Bytes} {ps : List (PublicKey × Signature)} :
    (validSignatures message ps).outcome = .ok () ↔ ∀ p ∈ ps, verifies message p.1 p.2 = true := by
  induction ps with
  | nil => simp [validSignatures, Logged.accept]
  | cons p ps ih =>
    rw [validSignatures, Logged.outcome_bind_unit_eq_ok_iff, outcome_validSignature_eq_ok_iff, ih,
      List.forall_mem_cons]

/-- A key has signed when the signature found for it is of its suite and verifies. -/
theorem hasSigned_iff {message : Bytes} {signatures : List Signature}
    (htargets : (signatures.map (·.target.text)).Nodup) {key : PublicKey} :
    key.HasSigned message signatures ↔
      ∃ s, targeting? signatures key = some s ∧ key.suite = s.suite ∧
        verifies message key s = true := by
  simp only [targeting?_eq_some_iff htargets]
  constructor
  · rintro ⟨s, hmem, hvouches⟩
    exact ⟨s, ⟨hmem, hvouches.target⟩, hvouches.suite.symm, hvouches.valid⟩
  · rintro ⟨s, ⟨hmem, htarget⟩, hsuite, hvalid⟩
    exact ⟨s, hmem, htarget, hsuite.symm, hvalid⟩

/-- Where every key has a signature that targets it, the pairs can be made. -/
theorem exists_pairs {keys : List PublicKey} {signatures : List Signature}
    (h : ∀ key ∈ keys, ∃ s, lastTargeting? signatures key = some s) :
    ∃ ps, pairs keys signatures = .ok ps := by
  simp only [pairs_eq_ok_iff]
  induction keys with
  | nil => exact ⟨[], rfl⟩
  | cons key keys ih =>
    obtain ⟨s, hs⟩ := h key List.mem_cons_self
    obtain ⟨ps, hps⟩ := ih fun k hk => h k (List.mem_cons_of_mem key hk)
    exact ⟨(key, s) :: ps, by simp [hs, hps]⟩

/-- A pair is a key with the signature found for it. -/
theorem mem_pairs_iff {keys : List PublicKey} {signatures : List Signature}
    {ps : List (PublicKey × Signature)} (hps : pairs keys signatures = .ok ps)
    {p : PublicKey × Signature} :
    p ∈ ps ↔ p.1 ∈ keys ∧ lastTargeting? signatures p.1 = some p.2 := by
  have hmap := pairs_eq_ok_iff.1 hps
  have hmem : p ∈ ps ↔ (p.1, some p.2) ∈ ps.map fun q => (q.1, some q.2) := by simp
  rw [hmem, ← hmap]
  simp only [List.mem_map, Prod.mk.injEq]
  constructor
  · rintro ⟨key, hkey, rfl, hlast⟩
    exact ⟨hkey, hlast⟩
  · rintro ⟨hkey, hlast⟩
    exact ⟨p.1, hkey, rfl, hlast⟩

/-- Pairing, comparing suites and verifying accept together when every key has signed. -/
theorem pairs_accepted_iff {message : Bytes} {keys : List PublicKey} {signatures : List Signature}
    (htargets : (signatures.map (·.target.text)).Nodup) :
    (∃ ps, pairs keys signatures = .ok ps ∧ sameSuites ps = .ok () ∧
        (validSignatures message ps).outcome = .ok ()) ↔
      ∀ key ∈ keys, key.HasSigned message signatures := by
  simp only [hasSigned_iff htargets, sameSuites_eq_ok_iff, outcome_validSignatures_eq_ok_iff,
    ← lastTargeting?_eq_targeting? htargets]
  constructor
  · rintro ⟨ps, hps, hsuites, hvalid⟩ key hkey
    have hmap := pairs_eq_ok_iff.1 hps
    have hfound : (key, lastTargeting? signatures key) ∈ ps.map fun p => (p.1, some p.2) :=
      hmap ▸ List.mem_map_of_mem hkey
    obtain ⟨p, hp, heq⟩ := List.mem_map.1 hfound
    obtain ⟨rfl, hlast⟩ := Prod.mk.injEq .. ▸ heq
    exact ⟨p.2, hlast.symm, hsuites p hp, hvalid p hp⟩
  · intro hsigned
    obtain ⟨ps, hps⟩ := exists_pairs fun key hkey => (hsigned key hkey).imp fun s hs => hs.1
    have hpair : ∀ p ∈ ps, p.1.suite = p.2.suite ∧ verifies message p.1 p.2 = true := by
      intro p hp
      obtain ⟨hkey, hlast⟩ := (mem_pairs_iff hps).1 hp
      obtain ⟨s, hs, hsuite, hvalid⟩ := hsigned p.1 hkey
      obtain rfl : p.2 = s := Option.some.inj (hlast.symm.trans hs)
      exact ⟨hsuite, hvalid⟩
    exact ⟨ps, hps, fun p hp => (hpair p hp).1, fun p hp => (hpair p hp).2⟩

/-! ## A document and its precursor -/

theorem succession_eq_ok_iff {document precursor : Document} {p : Particulars}
    (hcreated : document.created = .ok p.created) (hupdated : document.updated = .ok p.updated) :
    succession document precursor = .ok () ↔ p.Succeeds precursor := by
  have hopened : succession document precursor = .ok () ↔
      precursor.created = .ok p.created ∧
        ∃ updated previous, p.updated = some updated ∧ precursor.updated = .ok previous ∧
          ∀ time ∈ previous, time.before updated = true := by
    simp only [succession, hcreated, hupdated]
    cases hbefore : precursor.created with
    | error failure => simp
    | ok before =>
      by_cases hsame : before = p.created
      · cases hnow : p.updated with
        | none => simp [hsame]
        | some updated =>
          cases hthen : precursor.updated with
          | error failure => simp [hsame]
          | ok previous =>
            cases previous <;> simp [hsame]
      · simp [hsame]
  exact hopened.trans ⟨fun ⟨hc, hu⟩ => ⟨hc, hu⟩, fun ⟨hc, hu⟩ => ⟨hc, hu⟩⟩

theorem outcome_ownerSigned_eq_ok_iff {message : Bytes} {signatures : List Signature}
    (htargets : (signatures.map (·.target.text)).Nodup) {owner : PublicKey} :
    (ownerSigned message signatures owner).outcome = .ok () ↔
      owner.HasSigned message signatures := by
  rw [hasSigned_iff htargets, ownerSigned]
  cases htargeting : targeting? signatures owner with
  | none => simp [Logged.reject]
  | some s =>
    simp only [Logged.outcome_bind_unit_eq_ok_iff, Logged.outcome_ofExcept, sameSuite,
      ite_eq_ok_iff, outcome_validSignature_eq_ok_iff, Option.some.injEq, exists_eq_left']

theorem outcome_ownersSigned_eq_ok_iff {message : Bytes} {signatures : List Signature}
    (htargets : (signatures.map (·.target.text)).Nodup) {owners : List PublicKey} :
    (ownersSigned message signatures owners).outcome = .ok () ↔
      ∀ owner ∈ owners, owner.HasSigned message signatures := by
  induction owners with
  | nil => simp [ownersSigned, Logged.accept]
  | cons owner rest ih =>
    rw [ownersSigned, Logged.outcome_bind_unit_eq_ok_iff,
      outcome_ownerSigned_eq_ok_iff htargets, ih, List.forall_mem_cons]

theorem outcome_anyVerifies {message : Bytes} {ps : List (PublicKey × Signature)} :
    (anyVerifies message ps).outcome = .ok (ps.any fun p => verifies message p.1 p.2) := by
  induction ps with
  | nil => rfl
  | cons p ps ih =>
    simp only [anyVerifies, Logged.outcome_bind, verifyPair, List.any_cons]
    cases hvalid : verifies message p.1 p.2 with
    | true => rfl
    | false => simpa using ih

/-- Some claim verifies when some owner has signed. -/
theorem any_claims_iff {message : Bytes} {owners : List PublicKey} {signatures : List Signature} :
    ((claims owners signatures).any fun p => verifies message p.1 p.2) = true ↔
      ∃ owner ∈ owners, owner.HasSigned message signatures := by
  simp only [List.any_eq_true, claims, List.mem_flatMap, List.mem_map, List.mem_filter,
    Bool.and_eq_true, beq_iff_eq, Uri.same]
  constructor
  · rintro ⟨_, ⟨owner, howner, s, ⟨hmem, htarget, hsuite⟩, rfl⟩, hvalid⟩
    exact ⟨owner, howner, s, hmem, htarget, hsuite, hvalid⟩
  · rintro ⟨owner, howner, s, hmem, hvouches⟩
    exact ⟨_, ⟨owner, howner, s, ⟨hmem, hvouches.target, hvouches.suite⟩, rfl⟩, hvouches.valid⟩

theorem outcome_ownership_eq_ok_iff {profile : Profile} {action : Action}
    {document precursor : Document} {signatures : List Signature}
    (htargets : (signatures.map (·.target.text)).Nodup) :
    (ownership profile action document precursor signatures).outcome = .ok () ↔
      ∃ owners, precursor.publicKeys = .ok owners ∧
        Authorizes profile action document.bytes signatures owners := by
  simp only [ownership, Logged.outcome_bind_eq_ok_iff, Logged.outcome_ofExcept, mapError_eq_ok_iff]
  refine exists_congr fun owners => and_congr_right fun _ => ?_
  simp only [anyOwnerSuffices, Bool.and_eq_true, beq_iff_eq, Authorizes]
  split
  · rw [Logged.outcome_bind_eq_ok_iff, ← any_claims_iff]
    simp only [outcome_anyVerifies, Except.ok.injEq, exists_eq_left']
    split <;> simp_all [Logged.accept, Logged.reject]
  · rw [Logged.outcome_bind_unit_eq_ok_iff, outcome_ownersSigned_eq_ok_iff htargets]
    simp

end DidAdmission.Check
