-- SUMMARY: URIs and their texts.
import DidAdmission.Uri.Host
import DidAdmission.Uri.Path

/-!
# URIs

A URI is a scheme, an authority or none, a path, a query and a fragment. `Uri.text` writes it; two URIs
are the same when their texts are.
-/

namespace DidAdmission

/-- The authority of a URI: who asks, at which host and port. -/
structure Authority where
  user : String
  password : String
  host : Host
  port : Option Nat
deriving DecidableEq, Repr

/-- A URI. -/
structure Uri where
  scheme : String
  authority : Option Authority
  path : Path
  query : Option String
  fragment : Option String
deriving DecidableEq, Repr

/-- The user and the password, each only if it is there. -/
def Authority.credentials (a : Authority) : String :=
  if a.user = "" ∧ a.password = "" then ""
  else a.user ++ (if a.password = "" then "" else ":" ++ a.password) ++ "@"

def Authority.text (a : Authority) : String :=
  a.credentials ++ a.host.text ++
    match a.port with
    | none => ""
    | some port => ":" ++ toString port

namespace Uri

/-- A part of a URI after its mark, if it is there. -/
def marked (mark : String) : Option String → String
  | none => ""
  | some s => mark ++ s

/-- The authority and the path. A path that would be taken for an authority is led in by a dot. -/
def body (u : Uri) : String :=
  match u.authority with
  | some a => "//" ++ a.text ++ u.path.text
  | none => (if u.path.looksLikeAuthority then "/." else "") ++ u.path.text

/-- The text of a URI without its fragment. -/
def stem (u : Uri) : String :=
  u.scheme ++ ":" ++ u.body ++ marked "?" u.query

def text (u : Uri) : String :=
  u.stem ++ marked "#" u.fragment

/-- The URI without its fragment. A path kept as text then loses the spaces at its end, unless a query
follows it. -/
def withoutFragment (u : Uri) : Uri :=
  { u with
    path := if u.query.isNone then u.path.trimSpaces else u.path
    fragment := none }

/-- Are the two URIs written alike? -/
def same (u v : Uri) : Bool :=
  u.text == v.text

end Uri

end DidAdmission
