-- SUMMARY: Reading a profile from the text of a JSON object or array.
import DidAdmission.Json.Shape
import DidAdmission.Profile.Basic

/-!
# Profiles from JSON

A profile is an object with any of four members, or an array of the first so many of them in order; what
is left out has its standard value. A member must not be repeated, and members nobody asks for are passed
over.
-/

namespace DidAdmission.Profile

/-- The members met so far. -/
structure Draft where
  suites : Option (List Suite)
  signatureCount : Option CountPolicy
  deletion : Option DeletionPolicy
  strictNetwork : Option Bool
deriving DecidableEq, Repr

def Draft.empty : Draft := ⟨none, none, none, none⟩

/-- The profile with the members met, and standard values elsewhere. -/
def Draft.finish (d : Draft) : Profile where
  suites := d.suites.getD standard.suites
  signatureCount := d.signatureCount.getD standard.signatureCount
  deletion := d.deletion.getD standard.deletion
  strictNetwork := d.strictNetwork.getD standard.strictNetwork

/-- The members in the order of the array form. -/
inductive Member
  | suites
  | signatureCount
  | deletion
  | strictNetwork
deriving DecidableEq, Repr

namespace Member

def all : List Member := [.suites, .signatureCount, .deletion, .strictNetwork]

def name : Member → String
  | .suites => "supported_suites"
  | .signatureCount => "signature_count"
  | .deletion => "deletion_policy"
  | .strictNetwork => "strict_network"

/-- The member with the given name. -/
def ofName? (name : String) : Option Member :=
  all.find? (·.name == name)

def isIn (m : Member) (d : Draft) : Bool :=
  match m with
  | .suites => d.suites.isSome
  | .signatureCount => d.signatureCount.isSome
  | .deletion => d.deletion.isSome
  | .strictNetwork => d.strictNetwork.isSome

/-- Reads the value of a member into a draft. -/
def read (m : Member) (d : Draft) (s : List Char) : Except Json.Mismatch (Draft × List Char) :=
  match m with
  | .suites =>
    (Json.listShape (Json.variantShape Suite.named) s).map fun (v, rest) =>
      ({ d with suites := some v }, rest)
  | .signatureCount =>
    (Json.variantShape CountPolicy.named s).map fun (v, rest) =>
      ({ d with signatureCount := some v }, rest)
  | .deletion =>
    (Json.variantShape DeletionPolicy.named s).map fun (v, rest) =>
      ({ d with deletion := some v }, rest)
  | .strictNetwork =>
    (Json.booleanShape s).map fun (v, rest) => ({ d with strictNetwork := some v }, rest)

end Member

/-- Reads the member with the given key, or passes over it. -/
def readMember (d : Draft) (key : String) (s : List Char) :
    Except Json.Mismatch (Draft × List Char) :=
  match Member.ofName? key with
  | none => do
    let rest ← (Json.skipColon s).mapError .malformed
    let rest ← Json.skimShape rest
    .ok (d, rest)
  | some m =>
    if m.isIn d then .error (.repeatedMember m.name)
    else do
      let rest ← (Json.skipColon s).mapError .malformed
      m.read d rest

/-- Reads items for the given members, as far as there are items. -/
def readItems (first : Bool) (d : Draft) : List Member → List Char →
    Except Json.Mismatch (Draft × List Char)
  | [], s => .ok (d, s)
  | m :: rest, s => do
    match ← (Json.nextItem first s).mapError .malformed with
    | none => .ok (d, s)
    | some item =>
      let (d, s) ← m.read d item
      readItems false d rest s

def shape : Json.ShapeReader Profile := fun s =>
  Json.atValue s fun c rest =>
    if c = '{' then do
      let (d, rest) ←
        Json.foldMembers .malformed readMember (rest.length + 1) true Draft.empty rest
      .ok (d.finish, rest)
    else if c = '[' then do
      let (d, rest) ← readItems true Draft.empty Member.all rest
      let rest ← (Json.closeArray rest).mapError .malformed
      .ok (d.finish, rest)
    else .error (Json.mismatchAt "struct ValidatorConfig" (c :: rest))

/-- Reads a profile from a whole text. -/
def ofText (s : String) : Except Json.Mismatch Profile := do
  let (profile, rest) ← shape s.toList
  (Json.endOfText rest).mapError .malformed
  .ok profile

end DidAdmission.Profile
