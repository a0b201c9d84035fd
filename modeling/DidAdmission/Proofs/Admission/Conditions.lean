-- SUMMARY: What must hold of an envelope for it to be admitted, whatever the order of the checks.
import DidAdmission.Admission.Judge

/-!
# Conditions of admission

The checks run one after another, look keys up and stop at the first failure. Here is what they
ask for, as conditions on what an envelope declares: `Particulars.Admissible` for any envelope,
`Particulars.Succeeds` and `Authorizes` for a change.
-/

namespace DidAdmission

/-! ## Signatures of keys -/

/-- The signature is one of the key over the message. -/
structure Signature.Vouches (signature : Signature) (message : Bytes) (key : PublicKey) : Prop where
  target : signature.target.text = key.id.text
  suite : signature.suite = key.suite
  valid : key.suite.verify message key.bytes signature.bytes = true

/-- One of the signatures is the key's. -/
def PublicKey.HasSigned (key : PublicKey) (message : Bytes) (signatures : List Signature) : Prop :=
  ∃ signature ∈ signatures, signature.Vouches message key

/-! ## One envelope -/

/-- What an envelope declares. -/
structure Particulars where
  created : Option Timestamp
  updated : Option Timestamp
  signatures : List Signature
  keys : List PublicKey
  id : Identifier

/-- The envelope has a context, and these are its particulars. -/
structure Envelope.Declares (profile : Profile) (e : Envelope) (p : Particulars) : Prop where
  context : e.document.context = .ok ()
  created : e.document.created = .ok p.created
  updated : e.document.updated = .ok p.updated
  signatures : e.instruction.signatures = .ok p.signatures
  keys : e.document.publicKeys = .ok p.keys
  id : e.document.id profile.networkPolicy = .ok p.id

/-- An envelope declares no other particulars. -/
theorem Envelope.Declares.unique {profile : Profile} {e : Envelope} {p q : Particulars}
    (hp : e.Declares profile p) (hq : e.Declares profile q) : p = q := by
  obtain ⟨created, updated, signatures, keys, id⟩ := p
  obtain rfl : created = q.created := Except.ok.inj (hp.created.symm.trans hq.created)
  obtain rfl : updated = q.updated := Except.ok.inj (hp.updated.symm.trans hq.updated)
  obtain rfl : signatures = q.signatures := Except.ok.inj (hp.signatures.symm.trans hq.signatures)
  obtain rfl : keys = q.keys := Except.ok.inj (hp.keys.symm.trans hq.keys)
  obtain rfl : id = q.id := Except.ok.inj (hp.id.symm.trans hq.id)
  rfl

/-- The particulars fit together. -/
structure Particulars.WellFormed (profile : Profile) (stage : Check.Stage) (p : Particulars) :
    Prop where
  times : ∀ created ∈ p.created, ∀ updated ∈ p.updated, created.before updated = true
  targets : (p.signatures.map (·.target.text)).Nodup
  keyIds : (p.keys.map (·.id.text)).Nodup
  someKey : p.keys ≠ []
  enough : p.keys.length ≤ p.signatures.length
  exact : stage = .creation → profile.signatureCount = .exactForCreation →
    p.signatures.length = p.keys.length
  suites : ∀ key ∈ p.keys, profile.supports key.suite = true
  anchored : ∀ key ∈ p.keys, key.isAnchoredIn p.id.text = true

/-- The particulars fit together, and every key has signed the message. -/
structure Particulars.Admissible (profile : Profile) (stage : Check.Stage) (message : Bytes)
    (p : Particulars) : Prop extends p.WellFormed profile stage where
  signed : ∀ key ∈ p.keys, key.HasSigned message p.signatures

/-! ## A change -/

/-- The creation time is the precursor's, and the update time is later than the precursor's. -/
structure Particulars.Succeeds (p : Particulars) (precursor : Document) : Prop where
  created : precursor.created = .ok p.created
  updated : ∃ updated previous, p.updated = some updated ∧ precursor.updated = .ok previous ∧
    ∀ time ∈ previous, time.before updated = true

/-- The owners have signed: one of them where that suffices, else all of them. -/
def Authorizes (profile : Profile) (action : Action) (message : Bytes)
    (signatures : List Signature) (owners : List PublicKey) : Prop :=
  if action = .delete ∧ profile.deletion = .anyKey then
    ∃ owner ∈ owners, owner.HasSigned message signatures
  else ∀ owner ∈ owners, owner.HasSigned message signatures

end DidAdmission
