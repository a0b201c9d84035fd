-- SUMMARY: Signed instructions: the action asked for and the signatures that authorize it.
import DidAdmission.Reading

/-!
# Instructions

An instruction names an action and carries signatures, each of which names the key it claims to satisfy,
its target. The signatures are read all or none, and the first bad entry is the failure.
-/

namespace DidAdmission

/-- A signature of an instruction. -/
structure Signature where
  suite : Suite
  /-- The id of the key that the signature claims to satisfy. -/
  target : Uri
  encoding : Encoding
  bytes : Bytes
deriving DecidableEq, Repr

/-- Reads the signature in an entry: its target, suite and material, in this order. -/
def Signature.ofEntry (item : Json) : Except ReadFailure Signature := do
  let entry ← entryObject "signatures" item
  let target ← entry.uri "id"
  let suite ← entry.suite Suite.ofSignatureType?
  let (encoding, bytes) ← entry.material Material.signatureFields
  .ok { suite, target, encoding, bytes }

/-- An instruction as submitted. -/
structure Instruction where
  submission : Submission

namespace Instruction

/-- Reads a text, which must be a JSON object. -/
def parse (text : String) : Except NotAnObject Instruction :=
  (Submission.parse text).map Instruction.mk

theorem parse_of_read {text : String} {object : Json.Object}
    (h : Json.read text = .ok (.object object)) : parse text = .ok ⟨⟨text, object⟩⟩ := by
  rw [parse, Submission.parse_of_read h, Except.map]

def action (i : Instruction) : Except ReadFailure Action := do
  let name ← i.submission.object.string "action"
  match Action.ofName? name with
  | some action => .ok action
  | none => .error (.unknownAction name)

/-- The signatures, in the order of the instruction. -/
def signatures (i : Instruction) : Except ReadFailure (List Signature) := do
  let items ← i.submission.object.optionalArray "signatures"
  items.mapM Signature.ofEntry

end Instruction

end DidAdmission
