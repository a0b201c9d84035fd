-- SUMMARY: The checks an envelope must pass, one by one.
import DidAdmission.Admission.Logged
import DidAdmission.Crypto.Verify
import DidAdmission.Profile.Basic

/-!
# Checks

Each check names one condition and the rejection where it fails; none but the verification of signatures
leaves events. The checks of the next module are made of these, in the order in which they stand here.
-/

namespace DidAdmission

/-- An instruction with the document it acts on. -/
structure Envelope where
  instruction : Instruction
  document : Document

/-- The action an envelope asks for. -/
def Envelope.action (e : Envelope) : Except Rejection Action :=
  match e.instruction.action with
  | .ok action => .ok action
  | .error (.unknownAction name) => .error (.unknownAction name)
  | .error failure => .error (.malformedInstruction failure)

namespace Check

/-- Whether an envelope creates a document or changes one. -/
inductive Stage
  | creation
  | modification
deriving DecidableEq, Repr

/-! ## One document -/

/-- A document must not be updated before, or when, it is created. -/
def ownTimes (created updated : Option Timestamp) : Except Rejection Unit :=
  match created, updated with
  | some created, some updated =>
    if created.before updated then .ok () else .error .temporalOrder
  | _, _ => .ok ()

/-- The first item whose name stands before it already. -/
def firstRepeated? {α : Type} (name : α → Uri) : (seen : List String) → List α → Option α
  | _, [] => none
  | seen, x :: xs =>
    if seen.contains (name x).text then some x
    else firstRepeated? name ((name x).text :: seen) xs

/-- No two signatures have one target. -/
def distinctTargets (signatures : List Signature) : Except Rejection Unit :=
  match firstRepeated? Signature.target [] signatures with
  | some signature => .error (.repeatedTarget signature.target)
  | none => .ok ()

/-- No two keys have one id. -/
def distinctKeyIds (keys : List PublicKey) : Except Rejection Unit :=
  match firstRepeated? PublicKey.id [] keys with
  | some key => .error (.repeatedKeyId key.id)
  | none => .ok ()

def someKeys (keys : List PublicKey) : Except Rejection Unit :=
  if keys.isEmpty then .error .noKeys else .ok ()

/-- Is there exactly one signature a key to be? -/
def countsExactly (profile : Profile) (stage : Stage) : Bool :=
  stage == .creation && profile.signatureCount == .exactForCreation

/-- There are as many signatures as keys, or at least as many. -/
def signatureCount (profile : Profile) (stage : Stage) (keys signatures : Nat) :
    Except Rejection Unit :=
  if (if countsExactly profile stage then signatures = keys else keys ≤ signatures) then .ok ()
  else .error (.signatureCount keys signatures)

/-- The deployment supports the suite of every key. -/
def supportedSuites (profile : Profile) (keys : List PublicKey) : Except Rejection Unit :=
  match keys.find? fun key => !profile.supports key.suite with
  | some key => .error (.unsupportedSuite key.suite)
  | none => .ok ()

/-- Every key id is the document's id with a fragment. -/
def anchoredKeys (id : Identifier) (keys : List PublicKey) : Except Rejection Unit :=
  match keys.find? fun key => !key.isAnchoredIn id.text with
  | some key => .error (.foreignKeyId key.id)
  | none => .ok ()

/-! ## Signatures of keys -/

/-- The first signature that targets a key. -/
def targeting? (signatures : List Signature) (key : PublicKey) : Option Signature :=
  signatures.find? fun signature => signature.target.same key.id

/-- The last signature that targets a key. -/
def lastTargeting? (signatures : List Signature) (key : PublicKey) : Option Signature :=
  signatures.findRev? fun signature => signature.target.same key.id

/-- Every key with the signature that targets it; of several, with the last one. -/
def pairs (keys : List PublicKey) (signatures : List Signature) :
    Except Rejection (List (PublicKey × Signature)) :=
  keys.mapM fun key =>
    match lastTargeting? signatures key with
    | some signature => .ok (key, signature)
    | none => .error (.untargetedKey key.id)

/-- A key and its signature are of one suite. -/
def sameSuite (key : PublicKey) (signature : Signature) : Except Rejection Unit :=
  if key.suite = signature.suite then .ok ()
  else .error (.suiteMismatch key.id key.suite signature.suite)

/-- All keys and their signatures are of one suite each. -/
def sameSuites (pairs : List (PublicKey × Signature)) : Except Rejection Unit :=
  pairs.forM fun pair => sameSuite pair.1 pair.2

/-- Does the signature verify over the message under the key? -/
def verifies (message : Bytes) (key : PublicKey) (signature : Signature) : Bool :=
  key.suite.verify message key.bytes signature.bytes

/-- Checks a signature and records the answer. -/
def verifyPair (message : Bytes) (key : PublicKey) (signature : Signature) : Logged Bool :=
  let valid := verifies message key signature
  ⟨[.signatureChecked key.id key.suite valid], .ok valid⟩

/-- The signature verifies under the key. -/
def validSignature (message : Bytes) (key : PublicKey) (signature : Signature) : Logged Unit := do
  let valid ← verifyPair message key signature
  if valid then Logged.accept () else Logged.reject (.invalidSignature key.id)

/-- All signatures verify under their keys. -/
def validSignatures (message : Bytes) : List (PublicKey × Signature) → Logged Unit
  | [] => Logged.accept ()
  | (key, signature) :: rest => do
    validSignature message key signature
    validSignatures message rest

/-! ## A document and its precursor -/

/-- The creation time stays, and the update time is there and moves forward. -/
def succession (document precursor : Document) : Except Rejection Unit := do
  let before ← precursor.created.mapError .malformedPrecursor
  let created ← document.created.mapError .malformedDocument
  if before ≠ created then .error .temporalOrder
  match ← document.updated.mapError .malformedDocument with
  | none => .error .missingUpdated
  | some updated =>
    match ← precursor.updated.mapError .malformedPrecursor with
    | none => .ok ()
    | some previous => if previous.before updated then .ok () else .error .temporalOrder

/-- A key of the precursor has signed. -/
def ownerSigned (message : Bytes) (signatures : List Signature) (owner : PublicKey) : Logged Unit :=
  match targeting? signatures owner with
  | none => Logged.reject (.missingSignature owner.id)
  | some signature => do
    Logged.ofExcept (sameSuite owner signature)
    validSignature message owner signature

/-- All keys of the precursor have signed. -/
def ownersSigned (message : Bytes) (signatures : List Signature) : List PublicKey → Logged Unit
  | [] => Logged.accept ()
  | owner :: rest => do
    ownerSigned message signatures owner
    ownersSigned message signatures rest

/-- The keys of the precursor, each with every signature of its suite that targets it. -/
def claims (owners : List PublicKey) (signatures : List Signature) :
    List (PublicKey × Signature) :=
  owners.flatMap fun owner =>
    (signatures.filter fun signature =>
      signature.target.same owner.id && signature.suite == owner.suite).map fun signature =>
        (owner, signature)

/-- Checks signatures up to the first one that verifies. -/
def anyVerifies (message : Bytes) : List (PublicKey × Signature) → Logged Bool
  | [] => Logged.accept false
  | (key, signature) :: rest => do
    let valid ← verifyPair message key signature
    if valid then Logged.accept true else anyVerifies message rest

/-- May one key of the precursor stand for all? -/
def anyOwnerSuffices (profile : Profile) (action : Action) : Bool :=
  action == .delete && profile.deletion == .anyKey

/-- The keys of the precursor authorize the change. -/
def ownership (profile : Profile) (action : Action) (document precursor : Document)
    (signatures : List Signature) : Logged Unit := do
  let owners ← Logged.ofExcept (precursor.publicKeys.mapError .malformedPrecursor)
  if anyOwnerSuffices profile action then
    let authorized ← anyVerifies document.bytes (claims owners signatures)
    if authorized then Logged.accept () else Logged.reject .noMatchingSignature
  else
    ownersSigned document.bytes signatures owners
    Logged.note (.precursorResigned owners.length)

end Check

end DidAdmission
