-- SUMMARY: DID documents: their id, context, timestamps and public keys.
import DidAdmission.Reading
import DidAdmission.Timestamp

/-!
# Documents

A document is kept as submitted, since signatures cover its exact text. Its id, context, timestamps and
public keys are read on request; the keys are read all or none, and the first bad entry is the failure.
-/

namespace DidAdmission

/-- A public key of a document. -/
structure PublicKey where
  /-- The key id, whose fragment names the key. -/
  id : Uri
  suite : Suite
  controller : Uri
  encoding : Encoding
  bytes : Bytes
deriving DecidableEq, Repr

namespace PublicKey

/-- The key id without its fragment. -/
def owner (key : PublicKey) : Uri :=
  key.id.withoutFragment

/-- Does the key id consist of the document's id and a fragment that is not empty? -/
def isAnchoredIn (key : PublicKey) (documentId : String) : Bool :=
  key.id.fragment.any (· != "") && key.owner.text == documentId

/-- Reads the key in an entry: its id, suite, controller and material, in this order. -/
def ofEntry (item : Json) : Except ReadFailure PublicKey := do
  let entry ← entryObject "publicKey" item
  let id ← entry.uri "id"
  let suite ← entry.suite Suite.ofKeyType?
  let controller ← entry.uri "controller"
  let (encoding, bytes) ← entry.material Material.keyFields
  .ok { id, suite, controller, encoding, bytes }

end PublicKey

/-- A document as submitted. -/
structure Document where
  submission : Submission

namespace Document

/-- Reads a text, which must be a JSON object. -/
def parse (text : String) : Except NotAnObject Document :=
  (Submission.parse text).map Document.mk

theorem parse_of_read {text : String} {object : Json.Object}
    (h : Json.read text = .ok (.object object)) : parse text = .ok ⟨⟨text, object⟩⟩ := by
  rw [parse, Submission.parse_of_read h, Except.map]

def bytes (d : Document) : Bytes :=
  d.submission.bytes

/-- The bytes that signatures cover are those of the text as submitted. -/
theorem bytes_of_parse {text : String} {d : Document} (h : parse text = .ok d) :
    d.bytes = Bytes.ofText text := by
  obtain ⟨submission, hsubmission, rfl⟩ := map_eq_ok_iff.1 h
  exact Submission.bytes_of_parse hsubmission

/-- The id, under a network policy. -/
def id (d : Document) (policy : NetworkPolicy) : Except ReadFailure Identifier :=
  match d.submission.object.string "id" with
  | .error _ => .error (.invalidDocument .absent)
  | .ok text => (Identifier.parse policy text).mapError .invalidDocument

/-- Is the value a context that is not empty? -/
def isContext : Option Json → Bool
  | some (.text s) => !(Text.trim s.toList).isEmpty
  | some (.array items) => !items.isEmpty
  | some (.object members) => !members.isEmpty
  | _ => false

@[simp] theorem isContext_text (s : String) :
    isContext (some (.text s)) = true ↔ Text.trim s.toList ≠ [] := by
  simp [isContext]

@[simp] theorem isContext_array (items : List Json) :
    isContext (some (.array items)) = true ↔ items ≠ [] := by
  simp [isContext]

@[simp] theorem isContext_object (members : List (String × Json)) :
    isContext (some (.object members)) = true ↔ members ≠ [] := by
  simp [isContext]

/-- The context must be there and not empty; it is not read. -/
def context (d : Document) : Except ReadFailure Unit :=
  if isContext (d.submission.object.get? "@context") then .ok () else .error .missingContext

/-- A context is a text that is not blank, or an array or an object that is not empty. -/
theorem context_eq_ok_iff {d : Document} :
    d.context = .ok () ↔
      (∃ s, d.submission.object.get? "@context" = some (.text s) ∧ Text.trim s.toList ≠ []) ∨
      (∃ items, d.submission.object.get? "@context" = some (.array items) ∧ items ≠ []) ∨
      ∃ members, d.submission.object.get? "@context" = some (.object members) ∧ members ≠ [] := by
  have haccepts : d.context = .ok () ↔ isContext (d.submission.object.get? "@context") = true := by
    simp [context]
  rw [haccepts]
  cases d.submission.object.get? "@context" with
  | none => simp [isContext]
  | some value =>
    cases value with
    | text s => simp
    | array items => simp
    | object members => simp
    | _ => simp [isContext]

def timestamp (d : Document) (field : String) : Except ReadFailure (Option Timestamp) :=
  match d.submission.object.optionalString field with
  | .error failure => .error failure
  | .ok none => .ok none
  | .ok (some value) =>
    match Timestamp.parse? value with
    | some t => .ok (some t)
    | none => .error (.invalidTimestamp field value)

/-- A field that is missing or null gives no timestamp. -/
theorem timestamp_eq_ok_none_iff {d : Document} {field : String} :
    d.timestamp field = .ok none ↔
      d.submission.object.get? field = none ∨ d.submission.object.get? field = some .null := by
  unfold timestamp Json.Object.optionalString
  cases d.submission.object.get? field with
  | none => simp
  | some value =>
    cases value with
    | text s => cases hread : Timestamp.parse? s <;> simp [hread]
    | _ => simp

/-- A field that is a text gives what the text is read as, and no other gives a timestamp. -/
theorem timestamp_eq_ok_some_iff {d : Document} {field : String} {t : Timestamp} :
    d.timestamp field = .ok (some t) ↔
      ∃ s, d.submission.object.get? field = some (.text s) ∧ Timestamp.parse? s = some t := by
  unfold timestamp Json.Object.optionalString
  cases d.submission.object.get? field with
  | none => simp
  | some value =>
    cases value with
    | text s => cases hread : Timestamp.parse? s <;> simp [hread]
    | _ => simp

def created (d : Document) : Except ReadFailure (Option Timestamp) :=
  d.timestamp "created"

/-- When the document was last updated. -/
def updated (d : Document) : Except ReadFailure (Option Timestamp) :=
  d.timestamp "updated"

/-- The public keys, in document order. -/
def publicKeys (d : Document) : Except ReadFailure (List PublicKey) := do
  let items ← d.submission.object.optionalArray "publicKey"
  items.mapM PublicKey.ofEntry

end Document

end DidAdmission
