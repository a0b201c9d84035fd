-- SUMMARY: JSON web keys, read from a text or from a value, and the key bytes they stand for.
import DidAdmission.Codec.Base64
import DidAdmission.Codec.Der
import DidAdmission.Json.Shape

/-!
# JSON web keys

A key is an object with a type and the members its type needs, or an array of the six members in order.
It is read straight from a text (`Jwk.ofText`), where a member must not be repeated and members nobody
asks for are passed over, or from a value (`Jwk.ofValue`). `Jwk.keyBytes` gives the native form of the
key: the raw point, the uncompressed point, or the integer pair.
-/

namespace DidAdmission

/-- The members of a JSON web key. -/
structure Jwk where
  kty : String
  crv : Option String
  x : Option String
  y : Option String
  n : Option String
  e : Option String
deriving DecidableEq, Repr

namespace Jwk

/-- The members in the order of the array form. -/
inductive Member
  | kty
  | crv
  | x
  | y
  | n
  | e
deriving DecidableEq, Repr

def Member.name : Member → String
  | .kty => "kty"
  | .crv => "crv"
  | .x => "x"
  | .y => "y"
  | .n => "n"
  | .e => "e"

def members : List Member :=
  [.kty, .crv, .x, .y, .n, .e]

/-- The member with the given name. -/
def Member.ofName? (name : String) : Option Member :=
  members.find? (·.name == name)

/-- The members met so far, each with its value. -/
abbrev Draft := List (Member × Option String)

def Draft.has (draft : Draft) (m : Member) : Bool :=
  draft.any (·.1 == m)

def Draft.text? (draft : Draft) (m : Member) : Option String :=
  (draft.lookup m).join

/-- The key made of the members met; its type is required. -/
def Draft.finish (draft : Draft) : Except Json.Mismatch Jwk :=
  match draft.text? .kty with
  | none => .error (.missingMember "kty")
  | some kty =>
    .ok ⟨kty, draft.text? .crv, draft.text? .x, draft.text? .y, draft.text? .n, draft.text? .e⟩

/-- What is wanted of a key as a whole. -/
def expected : String := "struct Jwk"

/-- What is wanted of an array that stands for a key. -/
def expectedItems : String := "struct Jwk with 6 elements"

/-! ## From a text -/

/-- Reads the value of a member from a text. -/
def memberShape (m : Member) : Json.ShapeReader (Option String) :=
  if m = .kty then fun s => (Json.textShape "a string" s).map fun (t, rest) => (some t, rest)
  else Json.optionalTextShape "a string"

/-- Reads the member with the given key, or passes over it. -/
def readMember (draft : Draft) (key : String) (s : List Char) :
    Except Json.Mismatch (Draft × List Char) :=
  match Member.ofName? key with
  | none => do
    let rest ← (Json.skipColon s).mapError .malformed
    let rest ← Json.skimShape rest
    .ok (draft, rest)
  | some m =>
    if draft.has m then .error (.repeatedMember m.name)
    else do
      let rest ← (Json.skipColon s).mapError .malformed
      let (value, rest) ← memberShape m rest
      .ok ((m, value) :: draft, rest)

/-- Reads the items that stand for the given members. -/
def readItems (count : Nat) (draft : Draft) : List Member → List Char →
    Except Json.Mismatch (Draft × List Char)
  | [], s => .ok (draft, s)
  | m :: rest, s => do
    match ← (Json.nextItem (count == 0) s).mapError .malformed with
    | none => .error (.wrongLength count expectedItems)
    | some item =>
      let (value, s) ← memberShape m item
      readItems (count + 1) ((m, value) :: draft) rest s

def shape : Json.ShapeReader Jwk := fun s =>
  Json.atValue s fun c rest =>
    if c = '{' then do
      let (draft, rest) ← Json.foldMembers .malformed readMember (rest.length + 1) true [] rest
      .ok (← draft.finish, rest)
    else if c = '[' then do
      let (draft, rest) ← readItems 0 [] members rest
      let jwk ← draft.finish
      let rest ← (Json.closeArray rest).mapError .malformed
      .ok (jwk, rest)
    else .error (Json.mismatchAt expected (c :: rest))

/-- Reads a key from a whole text. -/
def ofText (s : String) : Except Json.Mismatch Jwk := do
  let (jwk, rest) ← shape s.toList
  (Json.endOfText rest).mapError .malformed
  .ok jwk

/-! ## From a value -/

/-- The text of a member's value. -/
def memberValue (m : Member) (value : Json) : Except Json.Mismatch (Option String) :=
  match value with
  | .text t => .ok (some t)
  | .null => if m = .kty then .error (.mistyped .null "a string") else .ok none
  | other => .error (.mistyped other.found "a string")

/-- The members of an object, in the order of their keys. -/
def ofMembers (draft : Draft) : Json.Object → Except Json.Mismatch Draft
  | [] => .ok draft
  | (key, value) :: rest =>
    match Member.ofName? key with
    | none => ofMembers draft rest
    | some m =>
      match memberValue m value with
      | .error e => .error e
      | .ok text => ofMembers ((m, text) :: draft) rest

/-- The items that stand for the given members, and the items left over. -/
def ofItems (count : Nat) (draft : Draft) : List Member → List Json →
    Except Json.Mismatch (Draft × List Json)
  | [], items => .ok (draft, items)
  | _ :: _, [] => .error (.wrongLength count expectedItems)
  | m :: rest, value :: items =>
    match memberValue m value with
    | .error e => .error e
    | .ok text => ofItems (count + 1) ((m, text) :: draft) rest items

/-- The key that a value stands for. -/
def ofValue (value : Json) : Except Json.Mismatch Jwk :=
  match value with
  | .object object => do
    let draft ← ofMembers [] object
    draft.finish
  | .array items => do
    let (draft, rest) ← ofItems 0 [] members items
    let jwk ← draft.finish
    if rest.isEmpty then .ok jwk
    else .error (.wrongLength items.length "fewer elements in array")
  | other => .error (.mistyped other.found expected)

/-! ## Key bytes -/

/-- Why a key has no bytes. -/
inductive Fault
  | mismatch (mismatch : Json.Mismatch)
  | missing (name : String)
  | member (name : String) (fault : Base64.Fault)
  | coordinateLength
  | unsupported (kty : String) (crv : Option String)
deriving DecidableEq, Repr

def Fault.message : Fault → String
  | .mismatch m => "invalid JWK: " ++ m.message
  | .missing name => "JWK is missing `" ++ name ++ "`"
  | .member name fault => "JWK member `" ++ name ++ "`: " ++ fault.message
  | .coordinateLength => "secp256k1 JWK coordinates must be 32 bytes"
  | .unsupported kty crv =>
    "unsupported JWK key type `" ++ kty ++ "` with curve `" ++ crv.getD "none" ++ "`"

/-- The bytes of a member, written in the alphabet for URLs. -/
def memberBytes (name : String) (value : Option String) : Except Fault Bytes :=
  match value with
  | none => .error (.missing name)
  | some text => (Base64.decodeIn Alphabet.base64Url text.toList).mapError (.member name)

/-- The uncompressed point with the given coordinates. -/
def uncompressedPoint (x y : Bytes) : Bytes :=
  0x04 :: (x ++ y)

/-- The native form of a key of a supported type. -/
def keyBytes (jwk : Jwk) : Except Fault Bytes :=
  if jwk.kty = "OKP" ∧ jwk.crv = some "Ed25519" then memberBytes "x" jwk.x
  else if jwk.kty = "EC" ∧ jwk.crv = some "secp256k1" then do
    let x ← memberBytes "x" jwk.x
    let y ← memberBytes "y" jwk.y
    if x.length ≠ 32 ∨ y.length ≠ 32 then .error .coordinateLength
    else .ok (uncompressedPoint x y)
  else if jwk.kty = "RSA" then do
    let n ← memberBytes "n" jwk.n
    let e ← memberBytes "e" jwk.e
    .ok (Der.integerPair n e)
  else .error (.unsupported jwk.kty jwk.crv)

/-- The key bytes of a value: of the key in a text, or of the key that another value stands for. -/
def decodeValue (value : Json) : Except Fault Bytes := do
  let jwk ←
    match value with
    | .text t => (ofText t).mapError Fault.mismatch
    | other => (ofValue other).mapError Fault.mismatch
  jwk.keyBytes

end Jwk

end DidAdmission
