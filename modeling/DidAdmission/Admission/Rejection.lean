-- SUMMARY: Why an envelope is rejected.
import DidAdmission.Document
import DidAdmission.Instruction

/-!
# Rejections

A rejection is the first check that an envelope fails, with what the check was about.
-/

namespace DidAdmission

/-- Why an envelope is rejected. -/
inductive Rejection
  | malformedJson (reason : NotAnObject)
  | malformedInstruction (failure : ReadFailure)
  | malformedDocument (failure : ReadFailure)
  | malformedPrecursor (failure : ReadFailure)
  | unknownAction (name : String)
  | noKeys
  | repeatedTarget (target : Uri)
  | repeatedKeyId (id : Uri)
  | signatureCount (keys signatures : Nat)
  | unsupportedSuite (suite : Suite)
  | untargetedKey (id : Uri)
  | suiteMismatch (target : Uri) (keySuite signatureSuite : Suite)
  | invalidSignature (id : Uri)
  | noMatchingSignature
  | missingSignature (id : Uri)
  | missingUpdated
  | temporalOrder
  | foreignKeyId (id : Uri)
deriving DecidableEq, Repr

def Rejection.message : Rejection → String
  | .malformedJson reason => "malformed json: " ++ reason.message
  | .malformedInstruction failure => "malformed instruction: " ++ failure.message
  | .malformedDocument failure => "malformed document: " ++ failure.message
  | .malformedPrecursor failure => "malformed precursor document: " ++ failure.message
  | .unknownAction name => "unknown action `" ++ name ++ "`"
  | .noKeys => "document has no public keys"
  | .repeatedTarget target => "more than one signature targets `" ++ target.text ++ "`"
  | .repeatedKeyId id => "public key id `" ++ id.text ++ "` is used more than once"
  | .signatureCount keys signatures =>
    toString signatures ++ " signature(s) for " ++ toString keys ++ " public key(s)"
  | .unsupportedSuite suite =>
    "crypto suite " ++ suite.display ++ " is not supported by this deployment"
  | .untargetedKey id => "no signature targets public key `" ++ id.text ++ "`"
  | .suiteMismatch target keySuite signatureSuite =>
    "suite mismatch for `" ++ target.text ++ "`: key is " ++ keySuite.display
      ++ ", signature is " ++ signatureSuite.display
  | .invalidSignature id => "signature for `" ++ id.text ++ "` does not verify"
  | .noMatchingSignature => "no signature matches any precursor key"
  | .missingSignature id => "missing signature for precursor key `" ++ id.text ++ "`"
  | .missingUpdated => "modification carries no `updated` timestamp"
  | .temporalOrder => "timestamps are not in a valid order"
  | .foreignKeyId id => "public key id `" ++ id.text ++ "` does not belong to the document"

end DidAdmission
