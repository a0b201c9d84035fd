-- SUMMARY: Identifiers of the form `did:<method>:<network>:<uuid>`.
import DidAdmission.Text.Blank

/-!
# Identifiers

An identifier has four segments between colons. Its text is kept as written, so that key ids can be
compared with what a document declares. A network outside the known set is refused by the strict policy
and kept by the lenient one.
-/

namespace DidAdmission

/-- The network an identifier is anchored to. -/
inductive Network
  | main
  | test
  | dev
  | net
  | unlisted (name : String)
deriving DecidableEq, Repr

/-- What happens to a network outside the known set. -/
inductive NetworkPolicy
  | strict
  | lenient
deriving DecidableEq, Repr

namespace Network

def known : List Network := [.main, .test, .dev, .net]

/-- The segment that names a network. -/
def name : Network → String
  | .main => "main"
  | .test => "test"
  | .dev => "dev"
  | .net => "net"
  | .unlisted name => name

/-- The known network with the given name. -/
def ofName? (name : String) : Option Network :=
  known.find? (·.name == name)

/-- Does the network belong to the known set? -/
def isListed : Network → Bool
  | .unlisted _ => false
  | _ => true

end Network

/-- A parsed identifier. -/
structure Identifier where
  /-- The identifier as written. -/
  text : String
  method : String
  network : Network
  /-- The last segment as written. -/
  uuid : String
deriving DecidableEq, Repr

namespace Identifier

/-- Why a text is not an identifier. -/
inductive Failure
  | invalidScheme (input : String)
  | malformed (input : String)
  | invalidUuid (segment : String)
  | invalidNetwork (segment : String)
  | absent
deriving DecidableEq, Repr

def Failure.message : Failure → String
  | .invalidScheme input => "invalid scheme in `" ++ input ++ "`, expected `did`"
  | .malformed input => "malformed identifier `" ++ input ++ "`"
  | .invalidUuid segment => "invalid uuid `" ++ segment ++ "`"
  | .invalidNetwork segment => "unknown network `" ++ segment ++ "`"
  | .absent => "document has no `id`"

/-- May the character stand in the name of a method? -/
def isMethodChar (c : Char) : Bool :=
  c.isLower || c.isDigit

/-- May the character stand in the name of a network? -/
def isNetworkChar (c : Char) : Bool :=
  c.isAlphanum || c == '-' || c == '_' || c == '.'

/-- May the character stand in a UUID? -/
def isHexDigit (c : Char) : Bool :=
  c.isDigit || ('a' ≤ c && c ≤ 'f') || ('A' ≤ c && c ≤ 'F')

/-- The segment is not empty and all its characters satisfy `p`. -/
def isNameOf (p : Char → Bool) (segment : List Char) : Bool :=
  !segment.isEmpty && segment.all p

/-- Is the segment five groups of 8, 4, 4, 4 and 12 ASCII letters and digits? The letters are not
judged here. -/
def isUuidShaped (segment : List Char) : Bool :=
  let groups := Text.split '-' segment
  groups.map List.length == [8, 4, 4, 4, 12] && groups.all (·.all Char.isAlphanum)

/-- Are all characters of the segment hyphens or hexadecimal digits? -/
def isHexadecimal (segment : List Char) : Bool :=
  segment.all fun c => c == '-' || isHexDigit c

/-- The network with the given name, as far as the policy admits it. -/
def networkOf (policy : NetworkPolicy) (name : String) : Except Failure Network :=
  match Network.ofName? name, policy with
  | some network, _ => .ok network
  | none, .lenient => .ok (.unlisted name)
  | none, .strict => .error (.invalidNetwork name)

def parse (policy : NetworkPolicy) (input : String) : Except Failure Identifier :=
  match Text.split ':' input.toList with
  | scheme :: segments =>
    if scheme ≠ ['d', 'i', 'd'] then .error (.invalidScheme input)
    else match segments with
      | [method, network, uuid] =>
        if isNameOf isMethodChar method && isNameOf isNetworkChar network && isUuidShaped uuid then
          if isHexadecimal uuid then
            (networkOf policy (String.ofList network)).map fun network =>
              ⟨input, String.ofList method, network, String.ofList uuid⟩
          else .error (.invalidUuid (String.ofList uuid))
        else .error (.malformed input)
      | _ => .error (.malformed input)
  | [] => .error (.invalidScheme input)

def uuidText (id : Identifier) : String :=
  String.ofList (id.uuid.toList.map Char.toLower)

end Identifier

end DidAdmission
