-- SUMMARY: Submitted objects, their fields, and the ways in which reading a field fails.
import DidAdmission.Fallible
import DidAdmission.Identifier
import DidAdmission.Material
import DidAdmission.Suite
import DidAdmission.Uri.Parse

/-!
# Submitted objects

A document or an instruction is kept as the JSON object it was submitted as, with its exact text
(`Submission`). Fields are read on request, and each can fail on its own with a `ReadFailure`.
-/

namespace DidAdmission

/-- The operation an instruction asks for. -/
inductive Action
  | read
  | create
  | update
  | delete
deriving DecidableEq, Repr

namespace Action

def all : List Action := [.read, .create, .update, .delete]

def name : Action → String
  | .read => "read"
  | .create => "create"
  | .update => "update"
  | .delete => "delete"

/-- The action with the given name. -/
def ofName? (name : String) : Option Action :=
  all.find? (·.name == name)

end Action

/-- What a text at the top level is, if not a JSON object. -/
inductive NotAnObject
  | malformed (fault : Json.Fault)
  | otherValue
deriving DecidableEq, Repr

/-- The wording of why a text is not a JSON object. -/
def NotAnObject.message : NotAnObject → String
  | .malformed fault => fault.message
  | .otherValue => "expected a JSON object at the top level"

/-- Why a submitted object, or a field of it, cannot be read. -/
inductive ReadFailure
  | malformedJson (reason : NotAnObject)
  | missingField (field : String)
  | missingContext
  | invalidDocument (failure : Identifier.Failure)
  | invalidUri (field value : String)
  | invalidTimestamp (field value : String)
  | unknownSuite (type : String)
  | encoding (failure : Material.Failure)
  | unknownAction (name : String)
  | illegalAction (actual : Action) (expected : String)
deriving DecidableEq, Repr

def ReadFailure.message : ReadFailure → String
  | .malformedJson reason => "malformed json: " ++ reason.message
  | .missingField field => "missing or mistyped field `" ++ field ++ "`"
  | .missingContext => "missing or empty `@context`"
  | .invalidDocument failure => "invalid document id: " ++ failure.message
  | .invalidUri field value => "field `" ++ field ++ "` is not a valid uri: `" ++ value ++ "`"
  | .invalidTimestamp field value =>
    "field `" ++ field ++ "` is not a valid timestamp: `" ++ value ++ "`"
  | .unknownSuite type => "unknown crypto suite `" ++ type ++ "`"
  | .encoding failure => "encoding error: " ++ failure.message
  | .unknownAction name => "unknown action `" ++ name ++ "`"
  | .illegalAction actual expected =>
    "action `" ++ actual.name ++ "` is not allowed here, expected " ++ expected

/-- A JSON object with the exact text it was submitted as. -/
structure Submission where
  text : String
  object : Json.Object

namespace Submission

/-- Reads a text, which must be a JSON object. -/
def parse (text : String) : Except NotAnObject Submission :=
  match Json.read text with
  | .error fault => .error (.malformed fault)
  | .ok (.object object) => .ok ⟨text, object⟩
  | .ok _ => .error .otherValue

def bytes (s : Submission) : Bytes :=
  Bytes.ofText s.text

/-- A text that is a JSON object is kept with it. -/
theorem parse_of_read {text : String} {object : Json.Object}
    (h : Json.read text = .ok (.object object)) : parse text = .ok ⟨text, object⟩ := by
  simp only [parse, h]

/-- The bytes are those of the text that was submitted. -/
theorem bytes_of_parse {text : String} {s : Submission} (h : parse text = .ok s) :
    s.bytes = Bytes.ofText text := by
  unfold parse at h
  split at h
  · cases h
  · rw [← Except.ok.inj h, bytes]
  · cases h

end Submission

namespace Json.Object

/-- A text that must be there. -/
def string (object : Json.Object) (field : String) : Except ReadFailure String :=
  match (object.get? field).bind Json.text? with
  | some s => .ok s
  | none => .error (.missingField field)

/-- A text that may be missing or null. -/
def optionalString (object : Json.Object) (field : String) : Except ReadFailure (Option String) :=
  match object.get? field with
  | none | some .null => .ok none
  | some (.text s) => .ok (some s)
  | some _ => .error (.missingField field)

/-- An array that must be there. -/
def array (object : Json.Object) (field : String) : Except ReadFailure (List Json) :=
  match object.get? field with
  | some (.array items) => .ok items
  | _ => .error (.missingField field)

/-- An array that may be missing or null, which stands for an empty one. -/
def optionalArray (object : Json.Object) (field : String) : Except ReadFailure (List Json) :=
  match object.get? field with
  | none | some .null => .ok []
  | some (.array items) => .ok items
  | some _ => .error (.missingField field)

/-- A text that must be a URI. -/
def uri (object : Json.Object) (field : String) : Except ReadFailure Uri := do
  let value ← string object field
  match Uri.parse? value with
  | some uri => .ok uri
  | none => .error (.invalidUri field value)

/-- The `type`, which must name a suite. -/
def suite (object : Json.Object) (ofType? : String → Option Suite) : Except ReadFailure Suite := do
  let type ← string object "type"
  match ofType? type with
  | some suite => .ok suite
  | none => .error (.unknownSuite type)

/-- The material in one of the given fields, with its encoding. -/
def material (object : Json.Object) (fields : List MaterialField) :
    Except ReadFailure (Encoding × Bytes) := do
  let material ← (Material.resolve object fields).mapError .encoding
  let bytes ← material.decode.mapError .encoding
  .ok (material.field.encoding, bytes)

end Json.Object

/-- An entry of an array, which must be an object. -/
def entryObject (array : String) (item : Json) : Except ReadFailure Json.Object :=
  match item.object? with
  | some object => .ok object
  | none => .error (.missingField (array ++ "[]"))

end DidAdmission
