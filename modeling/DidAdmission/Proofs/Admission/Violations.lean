-- SUMMARY: What an envelope is held to, clause by clause, and what reports a violated clause.
import DidAdmission.Proofs.Admission.Conditions
import DidAdmission.Proofs.Precedence

/-!
# Violations

`Clause` lists what an envelope is held to, in the order in which it is judged, and
`Envelope.Violates` says for each clause what violates it and which rejection reports that. A clause
speaks about values that an earlier clause asks to be readable; where they are not, it is not violated.
-/

namespace DidAdmission

/-- What an envelope is held to, in the order in which it is judged. -/
inductive Clause
  | context
  | created
  | updated
  | ownTimes
  | signatures
  | distinctTargets
  | keys
  | distinctKeyIds
  | someKey
  | signatureCount
  | supportedSuites
  | id
  | anchoredKeys
  | targetedKeys
  | sameSuites
  | validSignatures
  | precursorCreated
  | sameCreated
  | updatedGiven
  | precursorUpdated
  | laterUpdate
  | precursorKeys
  | ownership
deriving DecidableEq, Repr

namespace Clause

/-- The clauses that need no cryptography. -/
def ofStructure : List Clause :=
  [.context, .created, .updated, .ownTimes, .signatures, .distinctTargets, .keys, .distinctKeyIds,
   .someKey, .signatureCount, .supportedSuites, .id, .anchoredKeys]

/-- The clauses about the signatures of the document's keys. -/
def ofSignatures : List Clause :=
  [.targetedKeys, .sameSuites, .validSignatures]

/-- The clauses about the times of a document and its precursor. -/
def ofSuccession : List Clause :=
  [.precursorCreated, .sameCreated, .updatedGiven, .precursorUpdated, .laterUpdate]

/-- The clauses about the keys of the precursor. -/
def ofOwnership : List Clause :=
  [.precursorKeys, .ownership]

def all : List Clause :=
  ofStructure ++ ofSignatures ++ (ofSuccession ++ ofOwnership)

end Clause

/-- The first item whose name one before it has. -/
def FirstRepeated {α : Type} (name : α → String) (xs : List α) (x : α) : Prop :=
  ∃ earlier later, xs = earlier ++ x :: later ∧ (earlier.map name).Nodup ∧
    name x ∈ earlier.map name

/-- The entries in a field cannot be read: they are in no array, or the first bad one fails. -/
def Unreadable {α : Type} (object : Json.Object) (field : String)
    (ofEntry : Json → Except ReadFailure α) (failure : ReadFailure) : Prop :=
  object.optionalArray field = .error failure ∨
    ∃ items, object.optionalArray field = .ok items ∧
      Earliest (fun item failure => ofEntry item = .error failure) items failure

/-- The signature of an owner is missing, of another suite, or invalid. -/
inductive PublicKey.Shortfall (message : Bytes) (signatures : List Signature) (owner : PublicKey) :
    Rejection → Prop
  | missing (hmissing : ∀ signature ∈ signatures, signature.target.text ≠ owner.id.text) :
    Shortfall message signatures owner (.missingSignature owner.id)
  | mismatch {signature : Signature} (hmem : signature ∈ signatures)
    (htarget : signature.target.text = owner.id.text) (hsuite : owner.suite ≠ signature.suite) :
    Shortfall message signatures owner (.suiteMismatch owner.id owner.suite signature.suite)
  | invalid {signature : Signature} (hmem : signature ∈ signatures)
    (htarget : signature.target.text = owner.id.text) (hsuite : owner.suite = signature.suite)
    (hinvalid : owner.suite.verify message owner.bytes signature.bytes = false) :
    Shortfall message signatures owner (.invalidSignature owner.id)

/-- The envelope violates the clause, as one that changes the precursor or, where there is none, as one
that creates a document, and the rejection reports this. -/
def Envelope.Violates (profile : Profile) (e : Envelope) (precursor : Option Document) :
    Clause → Rejection → Prop
  | .context, r => ∃ failure, e.document.context = .error failure ∧ .malformedDocument failure = r
  | .created, r => ∃ failure, e.document.created = .error failure ∧ .malformedDocument failure = r
  | .updated, r => ∃ failure, e.document.updated = .error failure ∧ .malformedDocument failure = r
  | .ownTimes, r =>
    ∃ created updated, e.document.created = .ok (some created) ∧
      e.document.updated = .ok (some updated) ∧ created.before updated = false ∧ .temporalOrder = r
  | .signatures, r =>
    ∃ failure, Unreadable e.instruction.submission.object "signatures" Signature.ofEntry failure ∧
      .malformedInstruction failure = r
  | .distinctTargets, r =>
    ∃ signatures, e.instruction.signatures = .ok signatures ∧
      ∃ signature, FirstRepeated (·.target.text) signatures signature ∧
        .repeatedTarget signature.target = r
  | .keys, r =>
    ∃ failure, Unreadable e.document.submission.object "publicKey" PublicKey.ofEntry failure ∧
      .malformedDocument failure = r
  | .distinctKeyIds, r =>
    ∃ keys, e.document.publicKeys = .ok keys ∧
      ∃ key, FirstRepeated (·.id.text) keys key ∧ .repeatedKeyId key.id = r
  | .someKey, r => e.document.publicKeys = .ok [] ∧ .noKeys = r
  | .signatureCount, r =>
    ∃ keys signatures, e.document.publicKeys = .ok keys ∧ e.instruction.signatures = .ok signatures ∧
      (signatures.length < keys.length ∨
        (precursor = none ∧ profile.signatureCount = .exactForCreation ∧
          signatures.length ≠ keys.length)) ∧
      .signatureCount keys.length signatures.length = r
  | .supportedSuites, r =>
    ∃ keys, e.document.publicKeys = .ok keys ∧
      ∃ key, FirstWith (fun key => profile.supports key.suite = false) keys key ∧
        .unsupportedSuite key.suite = r
  | .id, r =>
    ∃ failure, e.document.id profile.networkPolicy = .error failure ∧ .malformedDocument failure = r
  | .anchoredKeys, r =>
    ∃ id keys, e.document.id profile.networkPolicy = .ok id ∧ e.document.publicKeys = .ok keys ∧
      ∃ key, FirstWith (fun key => key.isAnchoredIn id.text = false) keys key ∧
        .foreignKeyId key.id = r
  | .targetedKeys, r =>
    ∃ keys signatures, e.document.publicKeys = .ok keys ∧ e.instruction.signatures = .ok signatures ∧
      ∃ key, FirstWith (fun key => ∀ s ∈ signatures, s.target.text ≠ key.id.text) keys key ∧
        .untargetedKey key.id = r
  | .sameSuites, r =>
    ∃ keys signatures, e.document.publicKeys = .ok keys ∧ e.instruction.signatures = .ok signatures ∧
      ∃ key, FirstWith (fun key => ∃ s ∈ signatures, s.target.text = key.id.text ∧
          key.suite ≠ s.suite) keys key ∧
        ∃ s ∈ signatures, s.target.text = key.id.text ∧ key.suite ≠ s.suite ∧
          .suiteMismatch key.id key.suite s.suite = r
  | .validSignatures, r =>
    ∃ keys signatures, e.document.publicKeys = .ok keys ∧ e.instruction.signatures = .ok signatures ∧
      ∃ key, FirstWith (fun key => ∃ s ∈ signatures, s.target.text = key.id.text ∧
          key.suite.verify e.document.bytes key.bytes s.bytes = false) keys key ∧
        .invalidSignature key.id = r
  | .precursorCreated, r =>
    ∃ d failure, precursor = some d ∧ d.created = .error failure ∧ .malformedPrecursor failure = r
  | .sameCreated, r =>
    ∃ d before created, precursor = some d ∧ d.created = .ok before ∧
      e.document.created = .ok created ∧ before ≠ created ∧ .temporalOrder = r
  | .updatedGiven, r =>
    ∃ d, precursor = some d ∧ e.document.updated = .ok none ∧ .missingUpdated = r
  | .precursorUpdated, r =>
    ∃ d failure, precursor = some d ∧ d.updated = .error failure ∧ .malformedPrecursor failure = r
  | .laterUpdate, r =>
    ∃ d previous updated, precursor = some d ∧ d.updated = .ok (some previous) ∧
      e.document.updated = .ok (some updated) ∧ previous.before updated = false ∧ .temporalOrder = r
  | .precursorKeys, r =>
    ∃ d failure, precursor = some d ∧
      Unreadable d.submission.object "publicKey" PublicKey.ofEntry failure ∧
      .malformedPrecursor failure = r
  | .ownership, r =>
    ∃ d action owners signatures, precursor = some d ∧ e.action = .ok action ∧
      d.publicKeys = .ok owners ∧ e.instruction.signatures = .ok signatures ∧
      -- Where one owner suffices, none has signed; else the first one that has not falls short.
      if action = .delete ∧ profile.deletion = .anyKey then
        (∀ owner ∈ owners, ¬ owner.HasSigned e.document.bytes signatures) ∧ .noMatchingSignature = r
      else
        ∃ owner, FirstWith (fun owner => ¬ owner.HasSigned e.document.bytes signatures) owners owner ∧
          owner.Shortfall e.document.bytes signatures r

end DidAdmission
