-- SUMMARY: Admitting envelopes that create, update or delete a document.
import DidAdmission.Admission.Checks

/-!
# Judging envelopes

`creation` and `modification` put the checks in their order; the first one that fails is the rejection.
`dispatch` chooses between them by the action. The current document is the precursor of a change, and a
change without one is no question that has an answer.
-/

namespace DidAdmission.Envelope

/-- What the checks of one document have found. -/
structure Found where
  id : Identifier
  keys : List PublicKey
  signatures : List Signature

/-- The checks of one document that need no cryptography, up to those of its keys' ids. -/
def checkStructure (profile : Profile) (stage : Check.Stage) (e : Envelope) :
    Except Rejection Found := do
  e.document.context.mapError .malformedDocument
  let created ← e.document.created.mapError .malformedDocument
  let updated ← e.document.updated.mapError .malformedDocument
  Check.ownTimes created updated
  let signatures ← e.instruction.signatures.mapError .malformedInstruction
  Check.distinctTargets signatures
  let keys ← e.document.publicKeys.mapError .malformedDocument
  Check.distinctKeyIds keys
  Check.someKeys keys
  Check.signatureCount profile stage keys.length signatures.length
  Check.supportedSuites profile keys
  let id ← (e.document.id profile.networkPolicy).mapError .malformedDocument
  Check.anchoredKeys id keys
  .ok { id, keys, signatures }

/-- The checks of one document; answers the signatures of the instruction. -/
def checkBase (profile : Profile) (stage : Check.Stage) (e : Envelope) :
    Logged (List Signature) := do
  let found ← Logged.ofExcept (e.checkStructure profile stage)
  Logged.note (.structureAccepted found.id found.keys.length)
  let pairs ← Logged.ofExcept (Check.pairs found.keys found.signatures)
  Logged.ofExcept (Check.sameSuites pairs)
  Check.validSignatures e.document.bytes pairs
  Logged.note (.signaturesVerified pairs.length found.id)
  Logged.accept found.signatures

/-- The rejection of an action where others are expected. -/
def illegalAction (action : Action) (expected : String) : Rejection :=
  .malformedInstruction (.illegalAction action expected)

def creatingAction (e : Envelope) : Except Rejection Unit := do
  let action ← e.action
  if action = .create then .ok () else .error (illegalAction action "create")

/-- The action must update or delete. -/
def changingAction (e : Envelope) : Except Rejection Action := do
  let action ← e.action
  if action = .update ∨ action = .delete then .ok action
  else .error (illegalAction action "update or delete")

/-- Judges an envelope that creates a document. -/
def creation (profile : Profile) (e : Envelope) : Logged Unit :=
  Logged.reported do
    Logged.ofExcept e.creatingAction
    let _ ← e.checkBase profile .creation
    Logged.accept ()

/-- Judges an envelope that updates or deletes the precursor. -/
def modification (profile : Profile) (e : Envelope) (precursor : Document) : Logged Unit :=
  Logged.reported do
    let action ← Logged.ofExcept e.changingAction
    let signatures ← e.checkBase profile .modification
    Logged.ofExcept (Check.succession e.document precursor)
    Check.ownership profile action e.document precursor signatures

/-- Judges an envelope by its action. There is no answer where a change has no precursor. -/
def dispatch (profile : Profile) (e : Envelope) (precursor : Option Document) :
    Option (Logged Unit) :=
  match e.action with
  | .error rejection => some (Logged.reported (Logged.reject rejection))
  | .ok .create => some (e.creation profile)
  | .ok .read =>
    some (Logged.reported (Logged.reject (illegalAction .read "create, update or delete")))
  | .ok .update | .ok .delete => precursor.map (e.modification profile)

/-- Reads an instruction and the document it acts on. -/
def parse (instruction document : String) : Except Rejection Envelope := do
  let instruction ← (Instruction.parse instruction).mapError .malformedJson
  let document ← (Document.parse document).mapError .malformedJson
  .ok { instruction, document }

theorem parse_eq_ok_iff {instruction document : String} {e : Envelope} :
    parse instruction document = .ok e ↔
      Instruction.parse instruction = .ok e.instruction ∧ Document.parse document = .ok e.document := by
  simp only [parse, bind_eq_ok_iff, mapError_eq_ok_iff]
  constructor
  · rintro ⟨i, hi, d, hd, he⟩
    obtain rfl := Except.ok.inj he
    exact ⟨hi, hd⟩
  · rintro ⟨hi, hd⟩
    exact ⟨e.instruction, hi, e.document, hd, rfl⟩

/-- Two texts that are JSON objects make an envelope. -/
theorem parse_of_read {instruction document : String} {order object : Json.Object}
    (horder : Json.read instruction = .ok (.object order))
    (hobject : Json.read document = .ok (.object object)) :
    parse instruction document = .ok ⟨⟨⟨instruction, order⟩⟩, ⟨⟨document, object⟩⟩⟩ :=
  parse_eq_ok_iff.2 ⟨Instruction.parse_of_read horder, Document.parse_of_read hobject⟩

end DidAdmission.Envelope
