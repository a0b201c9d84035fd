import DidAdmission.Profile.Load
import DidAdmission.Proofs.History.Stretch
import DidAdmission.Proofs.History.Subject
import DidAdmission.Proofs.Precedence
import DidAdmission.Proofs.Admission.Rejections
import DidAdmission.Proofs.History.Precursor
import DidAdmission.Proofs.History.Authority
import DidAdmission.Proofs.Admission.KeyIds
import DidAdmission.Proofs.Admission.Pairing
import DidAdmission.Proofs.Admission.Reordering
import DidAdmission.Proofs.Admission.Loosening
import DidAdmission.Proofs.Admission.Reencoding
import DidAdmission.Proofs.Admission.Transcript
import DidAdmission.Proofs.History.Deletion
import DidAdmission.Proofs.Codec.Spelling
import DidAdmission.Proofs.Document.Conforming
import DidAdmission.Proofs.Admission.Oversigning
import DidAdmission.Proofs.Codec.NativeKeys
import DidAdmission.Proofs.Codec.WebKeyShapes
import DidAdmission.Proofs.Codec.Armor
import DidAdmission.Proofs.Codec.IntegerPairs
import DidAdmission.Proofs.Crypto.KeyForms
import DidAdmission.Proofs.Crypto.SignatureForms
import DidAdmission.Proofs.Crypto.Twins
import DidAdmission.Proofs.Crypto.Unwrapping
import DidAdmission.Proofs.Document.Times
import DidAdmission.Proofs.Codec.Multibase
import DidAdmission.Proofs.Profile.Layers
