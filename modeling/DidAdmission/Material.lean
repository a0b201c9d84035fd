-- SUMMARY: The encodings that key and signature material comes in, and the one field that carries it.
import DidAdmission.Codec.Jwk
import DidAdmission.Codec.Multibase
import DidAdmission.Codec.Pem

/-!
# Material

An entry carries its material in exactly one of a fixed list of fields, one for each encoding; a field
set to null counts as absent. `Material.resolve` picks the field and `Material.decode` reads it.
-/

namespace DidAdmission

/-- The forms that material may take. -/
inductive Encoding
  | base58
  | base64
  | hex
  | pem
  | jwk
  | multibase
deriving DecidableEq, Repr

namespace Encoding

/-- Why a value cannot be decoded. -/
inductive Fault
  | notText
  | base58 (fault : Base58.Fault)
  | base64 (fault : Base64.Fault)
  | hex (fault : Hex.Fault)
  | pem (fault : Pem.Fault)
  | json (fault : Json.Fault)
  | jwk (fault : Jwk.Fault)
  | multibase (fault : Multibase.Fault)
deriving DecidableEq, Repr

def Fault.message : Fault → String
  | .notText => "expected a string"
  | .base58 fault => fault.message
  | .base64 fault => fault.message
  | .hex fault => fault.message
  | .pem fault => fault.message
  | .json fault => fault.message
  | .jwk fault => fault.message
  | .multibase fault => fault.message

def name : Encoding → String
  | .base58 => "base58"
  | .base64 => "base64"
  | .hex => "hex"
  | .pem => "pem"
  | .jwk => "jwk"
  | .multibase => "multibase"

def all : List Encoding := [.base58, .base64, .hex, .pem, .jwk, .multibase]

/-- The encoding with the given name. -/
def ofName? (name : String) : Option Encoding :=
  all.find? (·.name == name)

/-- The bytes that a text stands for. The text of a JSON web key is JSON itself. -/
def decodeText (encoding : Encoding) (text : String) : Except Fault Bytes :=
  match encoding with
  | .base58 => (Base58.decode text.toList).mapError .base58
  | .base64 => (Base64.decode text.toList).mapError .base64
  | .hex => (Hex.decode text.toList).mapError .hex
  | .pem => (Pem.decode text.toList).mapError .pem
  | .jwk =>
    match Json.read text with
    | .error fault => .error (.json fault)
    | .ok value => (Jwk.decodeValue value).mapError .jwk
  | .multibase => (Multibase.decode text.toList).mapError .multibase

/-- The bytes that a value stands for. -/
def decodeValue (encoding : Encoding) (value : Json) : Except Fault Bytes :=
  match encoding with
  | .jwk => (Jwk.decodeValue value).mapError .jwk
  | _ =>
    match value.text? with
    | none => .error .notText
    | some text => encoding.decodeText text

/-- The text that stands for bytes, in the encodings whose text holds nothing but the bytes. -/
def encode? (encoding : Encoding) (b : Bytes) : Option String :=
  match encoding with
  | .base58 => some (String.ofList (Base58.encode b))
  | .base64 => some (String.ofList (Base64.encode b))
  | .hex => some (String.ofList (Hex.encode b))
  | .multibase => some (String.ofList (Multibase.encode b))
  | .pem => none
  | .jwk => none

end Encoding

/-- A field that may carry material. -/
structure MaterialField where
  encoding : Encoding
  name : String
deriving DecidableEq, Repr

/-- Material found in an entry. -/
structure Material where
  field : MaterialField
  value : Json

namespace Material

/-- Why an entry has no material. -/
inductive Failure
  | missing
  | ambiguous (fields : List String)
  | undecodable (field : String) (fault : Encoding.Fault)
deriving DecidableEq, Repr

def Failure.message : Failure → String
  | .missing => "no recognized encoding field present"
  | .ambiguous fields =>
    "ambiguous encoding, found fields " ++ Text.bracketed (fields.map Text.quote)
  | .undecodable field fault => "failed to decode `" ++ field ++ "`: " ++ fault.message

/-- The fields of a key, in the order in which they are looked for. -/
def keyFields : List MaterialField :=
  [⟨.base58, "publicKeyBase58"⟩, ⟨.base64, "publicKeyBase64"⟩, ⟨.hex, "publicKeyHex"⟩,
   ⟨.pem, "publicKeyPem"⟩, ⟨.jwk, "publicKeyJwk"⟩, ⟨.multibase, "publicKeyMultibase"⟩]

/-- The fields of a signature, in the order in which they are looked for. -/
def signatureFields : List MaterialField :=
  [⟨.base58, "signatureBase58"⟩, ⟨.base64, "signatureBase64"⟩, ⟨.hex, "signatureHex"⟩,
   ⟨.multibase, "signatureMultibase"⟩]

/-- The material in a field, if the field is there and not null. -/
def inField? (entry : Json.Object) (field : MaterialField) : Option Material :=
  match entry.get? field.name with
  | none => none
  | some value => if value.isNull then none else some ⟨field, value⟩

def present (entry : Json.Object) (fields : List MaterialField) : List Material :=
  fields.filterMap (inField? entry)

/-- The one piece of material in an entry. -/
def resolve (entry : Json.Object) (fields : List MaterialField) : Except Failure Material :=
  match present entry fields with
  | [] => .error .missing
  | [material] => .ok material
  | many => .error (.ambiguous (many.map (·.field.name)))

def decode (material : Material) : Except Failure Bytes :=
  (material.field.encoding.decodeValue material.value).mapError
    (.undecodable material.field.name)

end Material

end DidAdmission
