-- SUMMARY: Which envelopes are admitted: when creations and changes are accepted.
import DidAdmission.Proofs.Admission.Checks

/-!
# Acceptance

The checks of one document accept exactly the envelopes whose particulars are admissible. A creation
asks for nothing else; a change must also succeed its precursor and be authorized by its keys.
-/

namespace DidAdmission.Envelope

/-! ## One document -/

theorem checkStructure_eq_ok_iff {profile : Profile} {stage : Check.Stage} {e : Envelope}
    {found : Found} :
    e.checkStructure profile stage = .ok found ↔
      ∃ p, e.Declares profile p ∧ p.WellFormed profile stage ∧
        ⟨p.id, p.keys, p.signatures⟩ = found := by
  unfold checkStructure
  simp only [↓bind_unit_eq_ok_iff, bind_eq_ok_iff, mapError_eq_ok_iff,
    Check.ownTimes_eq_ok_iff, Check.distinctTargets_eq_ok_iff, Check.distinctKeyIds_eq_ok_iff,
    Check.someKeys_eq_ok_iff, Check.signatureCount_eq_ok_iff, Check.supportedSuites_eq_ok_iff,
    Check.anchoredKeys_eq_ok_iff, Except.ok.injEq]
  constructor
  · rintro ⟨hcontext, created, hcreated, updated, hupdated, htimes, signatures, hsignatures,
      htargets, keys, hkeys, hkeyIds, hsome, ⟨henough, hexact⟩, hsuites, id, hid, hanchored, hfound⟩
    exact ⟨⟨created, updated, signatures, keys, id⟩,
      ⟨hcontext, hcreated, hupdated, hsignatures, hkeys, hid⟩,
      ⟨htimes, htargets, hkeyIds, hsome, henough, hexact, hsuites, hanchored⟩, hfound⟩
  · rintro ⟨p, hp, hwf, hfound⟩
    exact ⟨hp.context, p.created, hp.created, p.updated, hp.updated, hwf.times, p.signatures,
      hp.signatures, hwf.targets, p.keys, hp.keys, hwf.keyIds, hwf.someKey, ⟨hwf.enough, hwf.exact⟩,
      hwf.suites, p.id, hp.id, hwf.anchored, hfound⟩

/-- The checks of one document accept the envelopes whose particulars are admissible. -/
theorem outcome_checkBase_eq_ok_iff {profile : Profile} {stage : Check.Stage} {e : Envelope}
    {signatures : List Signature} :
    (e.checkBase profile stage).outcome = .ok signatures ↔
      ∃ p, e.Declares profile p ∧ p.Admissible profile stage e.document.bytes ∧
        p.signatures = signatures := by
  have hsteps : (e.checkBase profile stage).outcome = .ok signatures ↔
      ∃ found, e.checkStructure profile stage = .ok found ∧
        (∃ ps, Check.pairs found.keys found.signatures = .ok ps ∧ Check.sameSuites ps = .ok () ∧
          (Check.validSignatures e.document.bytes ps).outcome = .ok ()) ∧
        found.signatures = signatures := by
    unfold checkBase
    simp only [↓Logged.outcome_bind_unit_eq_ok_iff, Logged.outcome_bind_eq_ok_iff,
      Logged.outcome_ofExcept, Logged.outcome_note, Logged.accept, Except.ok.injEq, true_and]
    refine exists_congr fun found => and_congr_right fun _ => ?_
    constructor
    · rintro ⟨ps, hps, hsuites, hvalid, hfound⟩
      exact ⟨⟨ps, hps, hsuites, hvalid⟩, hfound⟩
    · rintro ⟨⟨ps, hps, hsuites, hvalid⟩, hfound⟩
      exact ⟨ps, hps, hsuites, hvalid, hfound⟩
  rw [hsteps]
  constructor
  · rintro ⟨found, hfound, hpairs, hsignatures⟩
    obtain ⟨p, hp, hwf, rfl⟩ := checkStructure_eq_ok_iff.1 hfound
    exact ⟨p, hp, ⟨hwf, (Check.pairs_accepted_iff hwf.targets).1 hpairs⟩, hsignatures⟩
  · rintro ⟨p, hp, hadmissible, hsignatures⟩
    have hwf := hadmissible.toWellFormed
    exact ⟨⟨p.id, p.keys, p.signatures⟩, checkStructure_eq_ok_iff.2 ⟨p, hp, hwf, rfl⟩,
      (Check.pairs_accepted_iff hwf.targets).2 hadmissible.signed, hsignatures⟩

/-! ## Creation -/

theorem creatingAction_eq_ok_iff {e : Envelope} :
    e.creatingAction = .ok () ↔ e.action = .ok .create := by
  simp only [creatingAction, bind_eq_ok_iff, ite_eq_ok_iff, exists_eq_right]

/-- A creation passes two stages. -/
theorem outcome_creation_eq_ok_iff {profile : Profile} {e : Envelope} :
    (e.creation profile).outcome = .ok () ↔
      e.action = .ok .create ∧
        ∃ signatures, (e.checkBase profile .creation).outcome = .ok signatures := by
  rw [creation, Logged.outcome_reported, Logged.outcome_bind_unit_eq_ok_iff,
    Logged.outcome_ofExcept, creatingAction_eq_ok_iff, Logged.outcome_bind_eq_ok_iff]
  simp [Logged.accept]

/-- A creation is accepted exactly when its particulars are admissible. One valid signature for each
key, in any order and with none left over, is always enough of them. -/
theorem creation_accepts_iff (profile : Profile) (e : Envelope) :
    ((e.creation profile).outcome = .ok () ↔
      e.action = .ok .create ∧
        ∃ p, e.Declares profile p ∧ p.Admissible profile .creation e.document.bytes) ∧
    ∀ (p : Particulars) (signatureOf : PublicKey → Signature),
      e.action = .ok .create → e.Declares profile p →
      (∀ created ∈ p.created, ∀ updated ∈ p.updated, created.before updated = true) →
      p.keys ≠ [] → (p.keys.map (·.id.text)).Nodup →
      (∀ key ∈ p.keys, profile.supports key.suite = true) →
      (∀ key ∈ p.keys, key.isAnchoredIn p.id.text = true) →
      p.signatures.Perm (p.keys.map signatureOf) →
      (∀ key ∈ p.keys, (signatureOf key).Vouches e.document.bytes key) →
      (e.creation profile).outcome = .ok () := by
  have haccepts : (e.creation profile).outcome = .ok () ↔ e.action = .ok .create ∧
      ∃ p, e.Declares profile p ∧ p.Admissible profile .creation e.document.bytes := by
    simp only [outcome_creation_eq_ok_iff, outcome_checkBase_eq_ok_iff]
    refine and_congr_right fun _ => ⟨?_, ?_⟩
    · rintro ⟨_, p, hp, hadmissible, _⟩
      exact ⟨p, hp, hadmissible⟩
    · rintro ⟨p, hp, hadmissible⟩
      exact ⟨p.signatures, p, hp, hadmissible, rfl⟩
  refine ⟨haccepts, ?_⟩
  intro p signatureOf haction hp htimes hsome hkeyIds hsuites hanchored hperm hvouches
  have hlength : p.signatures.length = p.keys.length := by
    rw [hperm.length_eq, List.length_map]
  have hnames : (p.keys.map signatureOf).map (·.target.text) = p.keys.map (·.id.text) := by
    rw [List.map_map]
    exact List.map_congr_left fun key hkey => (hvouches key hkey).target
  have htargets : (p.signatures.map (·.target.text)).Nodup := by
    rw [(hperm.map _).nodup_iff, hnames]
    exact hkeyIds
  have hsigned : ∀ key ∈ p.keys, key.HasSigned e.document.bytes p.signatures := by
    intro key hkey
    exact ⟨signatureOf key, hperm.mem_iff.2 (List.mem_map_of_mem hkey), hvouches key hkey⟩
  exact haccepts.2 ⟨haction, p, hp, ⟨htimes, htargets, hkeyIds, hsome,
    Nat.le_of_eq hlength.symm, fun _ _ => hlength, hsuites, hanchored⟩, hsigned⟩

/-! ## Change -/

theorem changingAction_eq_ok_iff {e : Envelope} {action : Action} :
    e.changingAction = .ok action ↔
      e.action = .ok action ∧ (action = .update ∨ action = .delete) := by
  simp only [changingAction, bind_eq_ok_iff]
  constructor
  · rintro ⟨asked, hasked, h⟩
    split at h
    · next hchanges =>
      obtain rfl := Except.ok.inj h
      exact ⟨hasked, hchanges⟩
    · cases h
  · rintro ⟨hasked, hchanges⟩
    exact ⟨action, hasked, if_pos hchanges⟩

/-- A change passes four stages; only the last two look at the precursor. -/
theorem outcome_modification_eq_ok_iff {profile : Profile} {e : Envelope} {precursor : Document} :
    (e.modification profile precursor).outcome = .ok () ↔
      ∃ action signatures,
        (e.action = .ok action ∧ (action = .update ∨ action = .delete)) ∧
        (e.checkBase profile .modification).outcome = .ok signatures ∧
        Check.succession e.document precursor = .ok () ∧
        (Check.ownership profile action e.document precursor signatures).outcome = .ok () := by
  rw [modification, Logged.outcome_reported, Logged.outcome_bind_eq_ok_iff]
  simp only [Logged.outcome_bind_eq_ok_iff, Logged.outcome_ofExcept, changingAction_eq_ok_iff]
  constructor
  · rintro ⟨action, haction, signatures, hbase, ⟨⟩, hsuccession, hownership⟩
    exact ⟨action, signatures, haction, hbase, hsuccession, hownership⟩
  · rintro ⟨action, signatures, haction, hbase, hsuccession, hownership⟩
    exact ⟨action, haction, signatures, hbase, (), hsuccession, hownership⟩

/-- The keys of the precursor authorize a change that is accepted. -/
theorem modification_authorized {profile : Profile} {e : Envelope} {precursor : Document}
    (h : (e.modification profile precursor).outcome = .ok ()) :
    ∃ action p owners,
      (e.action = .ok action ∧ (action = .update ∨ action = .delete)) ∧
      e.Declares profile p ∧ p.Admissible profile .modification e.document.bytes ∧
      precursor.publicKeys = .ok owners ∧
      Authorizes profile action e.document.bytes p.signatures owners := by
  obtain ⟨action, signatures, haction, hbase, -, hownership⟩ := outcome_modification_eq_ok_iff.1 h
  obtain ⟨p, hp, hadmissible, rfl⟩ := outcome_checkBase_eq_ok_iff.1 hbase
  obtain ⟨owners, howners, hauthorizes⟩ :=
    (Check.outcome_ownership_eq_ok_iff hadmissible.targets).1 hownership
  exact ⟨action, p, owners, haction, hp, hadmissible, howners, hauthorizes⟩

/-- A change is accepted exactly when its particulars are admissible and succeed the precursor, and
the keys of the precursor authorize it. -/
theorem modification_accepts_iff (profile : Profile) (e : Envelope) (precursor : Document) :
    (e.modification profile precursor).outcome = .ok () ↔
      ∃ action p owners,
        e.action = .ok action ∧ (action = .update ∨ action = .delete) ∧
        e.Declares profile p ∧ p.Admissible profile .modification e.document.bytes ∧
        p.Succeeds precursor ∧ precursor.publicKeys = .ok owners ∧
        Authorizes profile action e.document.bytes p.signatures owners := by
  rw [outcome_modification_eq_ok_iff]
  constructor
  · rintro ⟨action, signatures, ⟨haction, hchanges⟩, hbase, hsuccession, hownership⟩
    obtain ⟨p, hp, hadmissible, rfl⟩ := outcome_checkBase_eq_ok_iff.1 hbase
    obtain ⟨owners, howners, hauthorizes⟩ :=
      (Check.outcome_ownership_eq_ok_iff hadmissible.targets).1 hownership
    have hsucceeds := (Check.succession_eq_ok_iff hp.created hp.updated).1 hsuccession
    exact ⟨action, p, owners, haction, hchanges, hp, hadmissible, hsucceeds, howners, hauthorizes⟩
  · rintro ⟨action, p, owners, haction, hchanges, hp, hadmissible, hsucceeds, howners, hauthorizes⟩
    have hbase : (e.checkBase profile .modification).outcome = .ok p.signatures :=
      outcome_checkBase_eq_ok_iff.2 ⟨p, hp, hadmissible, rfl⟩
    exact ⟨action, p.signatures, ⟨haction, hchanges⟩, hbase,
      (Check.succession_eq_ok_iff hp.created hp.updated).2 hsucceeds,
      (Check.outcome_ownership_eq_ok_iff hadmissible.targets).2 ⟨owners, howners, hauthorizes⟩⟩

/-! ## Two envelopes

A document is founded and then updated under another id. One key signs both envelopes, the second
one as the key of either id. -/

/-- A document with the one key. -/
def documentText (id updated : String) : String :=
  "\x7b\"@context\":\"x\",\"id\":\"" ++ id ++ "\"," ++ updated ++ "\"publicKey\":[\x7b\"id\":\""
    ++ id ++ "#k\",\"type\":\"Ed25519VerificationKey2018\",\"controller\":\"" ++ id
    ++ "\",\"publicKeyBase64\":\"iojj3XQJ8ZX9UtstPLpdcspnCb8dlBIb83SIAbQPb1w=\"\x7d]\x7d"

/-- A signature of the key. -/
def signatureText (id material : String) : String :=
  "\x7b\"id\":\"" ++ id ++ "#k\",\"type\":\"Ed25519Signature2018\",\"signatureBase64\":\""
    ++ material ++ "\"\x7d"

/-- An instruction with the given signatures. -/
def orderText (action signatures : String) : String :=
  "\x7b\"action\":\"" ++ action ++ "\",\"signatures\":[" ++ signatures ++ "]\x7d"

def foundingText : String :=
  documentText "did:a:net:00000000-0000-0000-0000-000000000001" ""

def foundingOrder : String :=
  orderText "create" <|
    signatureText "did:a:net:00000000-0000-0000-0000-000000000001"
      "ZbGHdtTsoAQ/ppN6SceXHYtsCohh3GKLdv2OwRjuu/CmZojieEgtpEPbUX6dZbgo7KFT6LkvI2mqme0i96mOCw=="

def movingText : String :=
  documentText "did:a:net:00000000-0000-0000-0000-000000000002"
    "\"updated\":\"2024-01-01T00:00:00Z\","

def movingOrder : String :=
  orderText "update" <|
    signatureText "did:a:net:00000000-0000-0000-0000-000000000001"
      "Z5KLKGEFQ8+7WtCxWCwWcL7rTbjCJD/niBR8ZHln4CICkecvnOOozSunUEHKGhMjRCo4DmU9DCaFF4Pf6eqbDA=="
    ++ "," ++ signatureText "did:a:net:00000000-0000-0000-0000-000000000002"
      "Z5KLKGEFQ8+7WtCxWCwWcL7rTbjCJD/niBR8ZHln4CICkecvnOOozSunUEHKGhMjRCo4DmU9DCaFF4Pf6eqbDA=="

/-- An entry for the one key. -/
def keyEntry (id controller : String) : Json :=
  .object
    [("controller", .text controller), ("id", .text id),
     ("publicKeyBase64", .text "iojj3XQJ8ZX9UtstPLpdcspnCb8dlBIb83SIAbQPb1w="),
     ("type", .text "Ed25519VerificationKey2018")]

/-- An entry for a signature. -/
def signatureEntry (id material : String) : Json :=
  .object
    [("id", .text id), ("signatureBase64", .text material), ("type", .text "Ed25519Signature2018")]

/-- The founding envelope. -/
def founding : Envelope where
  instruction.submission.text := foundingOrder
  instruction.submission.object :=
    [("action", .text "create"),
     ("signatures", .array
       [signatureEntry "did:a:net:00000000-0000-0000-0000-000000000001#k"
         "ZbGHdtTsoAQ/ppN6SceXHYtsCohh3GKLdv2OwRjuu/CmZojieEgtpEPbUX6dZbgo7KFT6LkvI2mqme0i96mOCw=="])]
  document.submission.text := foundingText
  document.submission.object :=
    [("@context", .text "x"), ("id", .text "did:a:net:00000000-0000-0000-0000-000000000001"),
     ("publicKey", .array
       [keyEntry "did:a:net:00000000-0000-0000-0000-000000000001#k"
         "did:a:net:00000000-0000-0000-0000-000000000001"])]

/-- The updating envelope. -/
def moving : Envelope where
  instruction.submission.text := movingOrder
  instruction.submission.object :=
    [("action", .text "update"),
     ("signatures", .array
       [signatureEntry "did:a:net:00000000-0000-0000-0000-000000000001#k"
         "Z5KLKGEFQ8+7WtCxWCwWcL7rTbjCJD/niBR8ZHln4CICkecvnOOozSunUEHKGhMjRCo4DmU9DCaFF4Pf6eqbDA==",
        signatureEntry "did:a:net:00000000-0000-0000-0000-000000000002#k"
         "Z5KLKGEFQ8+7WtCxWCwWcL7rTbjCJD/niBR8ZHln4CICkecvnOOozSunUEHKGhMjRCo4DmU9DCaFF4Pf6eqbDA=="])]
  document.submission.text := movingText
  document.submission.object :=
    [("@context", .text "x"), ("id", .text "did:a:net:00000000-0000-0000-0000-000000000002"),
     ("publicKey", .array
       [keyEntry "did:a:net:00000000-0000-0000-0000-000000000002#k"
         "did:a:net:00000000-0000-0000-0000-000000000002"]),
     ("updated", .text "2024-01-01T00:00:00Z")]

-- The literals are opened first, since the kernel would take long to find their characters.
set_option maxRecDepth 20000 in
theorem parse_founding : parse foundingOrder foundingText = .ok founding := by
  have horder : Json.read foundingOrder = .ok (.object founding.instruction.submission.object) := by
    unfold Json.read foundingOrder orderText signatureText
    simp only [String.toList_append]
    repeat rw [String.toList_ofList]
    rfl
  have htext : Json.read foundingText = .ok (.object founding.document.submission.object) := by
    unfold Json.read foundingText documentText
    simp only [String.toList_append]
    repeat rw [String.toList_ofList]
    rfl
  exact parse_of_read horder htext

set_option maxRecDepth 20000 in
theorem parse_moving : parse movingOrder movingText = .ok moving := by
  have horder : Json.read movingOrder = .ok (.object moving.instruction.submission.object) := by
    unfold Json.read movingOrder orderText signatureText
    simp only [String.toList_append]
    repeat rw [String.toList_ofList]
    rfl
  have htext : Json.read movingText = .ok (.object moving.document.submission.object) := by
    unfold Json.read movingText documentText
    simp only [String.toList_append]
    repeat rw [String.toList_ofList]
    rfl
  exact parse_of_read horder htext

/-- The key under an id with the given path. -/
def keyAt (path : String) : PublicKey where
  id := ⟨"did", none, .verbatim path, none, some "k"⟩
  suite := .ed25519
  controller := ⟨"did", none, .verbatim path, none, none⟩
  encoding := .base64
  bytes :=
    [138, 136, 227, 221, 116, 9, 241, 149, 253, 82, 219, 45, 60, 186, 93, 114, 202, 103, 9, 191, 29,
     148, 18, 27, 243, 116, 136, 1, 180, 15, 111, 92]

/-- A signature that targets the key. -/
def signatureAt (path : String) (b : Bytes) : Signature :=
  ⟨.ed25519, (keyAt path).id, .base64, b⟩

/-- The key's signature over the first document. -/
def foundingBytes : Bytes :=
  [101, 177, 135, 118, 212, 236, 160, 4, 63, 166, 147, 122, 73, 199, 151, 29, 139, 108, 10, 136, 97,
   220, 98, 139, 118, 253, 142, 193, 24, 238, 187, 240, 166, 102, 136, 226, 120, 72, 45, 164, 67,
   219, 81, 126, 157, 101, 184, 40, 236, 161, 83, 232, 185, 47, 35, 105, 170, 153, 237, 34, 247,
   169, 142, 11]

/-- What the founding envelope declares. -/
def foundingParticulars : Particulars where
  created := none
  updated := none
  signatures := [signatureAt "a:net:00000000-0000-0000-0000-000000000001" foundingBytes]
  keys := [keyAt "a:net:00000000-0000-0000-0000-000000000001"]
  id :=
    ⟨"did:a:net:00000000-0000-0000-0000-000000000001", "a", .net,
     "00000000-0000-0000-0000-000000000001"⟩

/-- The key's signature over the second document. -/
def movingBytes : Bytes :=
  [103, 146, 139, 40, 97, 5, 67, 207, 187, 90, 208, 177, 88, 44, 22, 112, 190, 235, 77, 184, 194,
   36, 63, 231, 136, 20, 124, 100, 121, 103, 224, 34, 2, 145, 231, 47, 156, 227, 168, 205, 43, 167,
   80, 65, 202, 26, 19, 35, 68, 42, 56, 14, 101, 61, 12, 38, 133, 23, 131, 223, 233, 234, 155, 12]

/-- What the updating envelope declares. -/
def movingParticulars : Particulars where
  created := none
  updated := some ⟨2024, 1, 1, 0, 0, 0, 0⟩
  signatures :=
    [signatureAt "a:net:00000000-0000-0000-0000-000000000001" movingBytes,
     signatureAt "a:net:00000000-0000-0000-0000-000000000002" movingBytes]
  keys := [keyAt "a:net:00000000-0000-0000-0000-000000000002"]
  id :=
    ⟨"did:a:net:00000000-0000-0000-0000-000000000002", "a", .net,
     "00000000-0000-0000-0000-000000000002"⟩

-- Successes are compared as options, whose equality the kernel can decide.
theorem founding_declares : founding.Declares .standard foundingParticulars where
  context := by rfl
  created := by rfl
  updated := by rfl
  signatures := toOption_eq_some_iff.1 (by decide +kernel)
  keys := toOption_eq_some_iff.1 (by decide +kernel)
  id := toOption_eq_some_iff.1 (by decide +kernel)

theorem moving_declares : moving.Declares .standard movingParticulars where
  context := by rfl
  created := by rfl
  updated := toOption_eq_some_iff.1 (by decide +kernel)
  signatures := toOption_eq_some_iff.1 (by decide +kernel)
  keys := toOption_eq_some_iff.1 (by decide +kernel)
  id := toOption_eq_some_iff.1 (by decide +kernel)

set_option maxRecDepth 20000 in
theorem founding_signed : ∀ key ∈ foundingParticulars.keys,
    (signatureAt "a:net:00000000-0000-0000-0000-000000000001" foundingBytes).Vouches
      founding.document.bytes key := by
  have hvalid : Suite.verify .ed25519 founding.document.bytes
      (keyAt "a:net:00000000-0000-0000-0000-000000000001").bytes foundingBytes = true := by
    unfold Document.bytes Submission.bytes Bytes.ofText founding foundingText documentText
    simp only [String.toList_append]
    repeat rw [String.toList_ofList]
    decide +kernel
  intro key hkey
  obtain rfl := List.mem_singleton.1 hkey
  exact ⟨rfl, rfl, hvalid⟩

theorem founding_wellFormed : foundingParticulars.WellFormed .standard .creation where
  times := nofun
  targets := by decide +kernel
  keyIds := by decide +kernel
  someKey := List.cons_ne_nil _ _
  enough := by decide
  exact := fun _ _ => rfl
  suites := by decide
  anchored := by decide +kernel

theorem founding_accepted : (founding.creation .standard).outcome = .ok () := by
  refine outcome_creation_eq_ok_iff.2 ⟨by rfl, foundingParticulars.signatures, ?_⟩
  refine outcome_checkBase_eq_ok_iff.2 ⟨foundingParticulars, founding_declares, ?_, rfl⟩
  exact ⟨founding_wellFormed, fun key hkey =>
    ⟨_, List.mem_singleton_self _, founding_signed key hkey⟩⟩

/-- The founding envelope has one signature for its one key. -/
theorem founding_signed_once :
    founding.Declares .standard foundingParticulars ∧
      foundingParticulars.signatures.Perm (foundingParticulars.keys.map fun _ =>
        signatureAt "a:net:00000000-0000-0000-0000-000000000001" foundingBytes) ∧
      (founding.creation .standard).outcome = .ok () :=
  ⟨founding_declares, .refl _,
    (creation_accepts_iff .standard founding).2 foundingParticulars
      (fun _ => signatureAt "a:net:00000000-0000-0000-0000-000000000001" foundingBytes)
      (by rfl) founding_declares founding_wellFormed.times founding_wellFormed.someKey
      founding_wellFormed.keyIds founding_wellFormed.suites founding_wellFormed.anchored (.refl _)
      founding_signed⟩

set_option maxRecDepth 20000 in
theorem moving_signed (path : String)
    (hmem : signatureAt path movingBytes ∈ movingParticulars.signatures) :
    (keyAt path).HasSigned moving.document.bytes movingParticulars.signatures := by
  have hvalid : Suite.verify .ed25519 moving.document.bytes
      (keyAt "a:net:00000000-0000-0000-0000-000000000001").bytes movingBytes = true := by
    unfold Document.bytes Submission.bytes Bytes.ofText moving movingText documentText
    simp only [String.toList_append]
    repeat rw [String.toList_ofList]
    decide +kernel
  exact ⟨_, hmem, rfl, rfl, hvalid⟩

theorem moving_wellFormed : movingParticulars.WellFormed .standard .modification where
  times := nofun
  targets := by decide +kernel
  keyIds := by decide +kernel
  someKey := List.cons_ne_nil _ _
  enough := by decide
  exact := nofun
  suites := by decide
  anchored := by decide +kernel

/-- The founding document is updated by its one key. -/
theorem founding_updated {e : Envelope} {p : Particulars} (haction : e.action = .ok .update)
    (hp : e.Declares .standard p)
    (hadmissible : p.Admissible .standard .modification e.document.bytes)
    (hsucceeds : p.Succeeds founding.document)
    (hsigned : (keyAt "a:net:00000000-0000-0000-0000-000000000001").HasSigned e.document.bytes
      p.signatures) :
    (e.modification .standard founding.document).outcome = .ok () := by
  have hauthorizes : Authorizes .standard .update e.document.bytes p.signatures
      foundingParticulars.keys := by
    rw [Authorizes, if_neg (by decide)]
    exact List.forall_mem_singleton.2 hsigned
  exact outcome_modification_eq_ok_iff.2 ⟨.update, p.signatures, ⟨haction, .inl rfl⟩,
    outcome_checkBase_eq_ok_iff.2 ⟨p, hp, hadmissible, rfl⟩,
    (Check.succession_eq_ok_iff hp.created hp.updated).2 hsucceeds,
    (Check.outcome_ownership_eq_ok_iff hadmissible.targets).2
      ⟨foundingParticulars.keys, founding_declares.keys, hauthorizes⟩⟩

theorem moving_accepted : (moving.modification .standard founding.document).outcome = .ok () := by
  have hadmissible :
      movingParticulars.Admissible .standard .modification moving.document.bytes := by
    refine ⟨moving_wellFormed, fun key hkey => ?_⟩
    obtain rfl := List.mem_singleton.1 hkey
    exact moving_signed _ (.tail _ (.head _))
  have hsucceeds : movingParticulars.Succeeds founding.document :=
    ⟨founding_declares.created, _, _, rfl, founding_declares.updated, by simp [foundingParticulars]⟩
  exact founding_updated (by rfl) moving_declares hadmissible hsucceeds (moving_signed _ (.head _))

end DidAdmission.Envelope
