-- SUMMARY: Reading a URI from a text.
import DidAdmission.Uri.Basic

/-!
# Reading URIs

A text is read without a base, so it must name its scheme. Blanks and controls around it do not count,
nor do tabs and line breaks inside it. The special schemes always have an authority and take
backslashes for slashes; `file` may leave its host out; any other scheme has an authority only after two
slashes.
-/

namespace DidAdmission.Uri

/-! ## Schemes -/

/-- The special schemes other than `file`, with the port each takes for granted. -/
def defaultPorts : List (String × Nat) :=
  [("http", 80), ("https", 443), ("ws", 80), ("wss", 443), ("ftp", 21)]

def isSpecial (scheme : String) : Bool :=
  scheme == "file" || (defaultPorts.lookup scheme).isSome

/-- May the character stand in a scheme after the first letter? -/
def isSchemeChar (c : Char) : Bool :=
  c.isAlphanum || c == '+' || c == '-' || c == '.'

/-- The scheme in lower case, and what follows its colon. -/
def scheme? (cs : List Char) : Option (String × List Char) :=
  match cs with
  | [] => none
  | first :: _ =>
    if first.isAlpha then
      match cs.dropWhile isSchemeChar with
      | ':' :: rest =>
        some (String.ofList ((cs.takeWhile isSchemeChar).map Char.toLower), rest)
      | _ => none
    else none

/-- Is the character removed at both ends of a text? -/
def isEdge (c : Char) : Bool :=
  c.toNat ≤ 0x20

/-- Is the character removed wherever it stands? -/
def isIgnored (c : Char) : Bool :=
  c == '\t' || c == '\n' || c == '\r'

/-- A text as it is read. -/
def clean (cs : List Char) : List Char :=
  (Text.trimBoth isEdge cs).filter fun c => !isIgnored c

/-! ## Query and fragment -/

/-- What precedes the mark, and what follows it if it is there. -/
def cutAt (mark : Char) (cs : List Char) : List Char × Option (List Char) :=
  match cs.dropWhile (· != mark) with
  | [] => (cs, none)
  | _ :: rest => (cs.takeWhile (· != mark), some rest)

/-- A query as it is kept. -/
def keepQuery (special : Bool) (cs : List Char) : String :=
  String.ofList
    (Percent.encode (if special then Percent.inSpecialQuery else Percent.inQuery) cs)

/-- A fragment as it is kept. -/
def keepFragment (cs : List Char) : String :=
  String.ofList (Percent.encode Percent.inFragment cs)

/-! ## Authority -/

/-- Does the character end an authority? -/
def endsAuthority (special : Bool) (c : Char) : Bool :=
  c == '/' || (special && c == '\\')

/-- What precedes the last `@`, if there is one, and what follows it. -/
def splitUserinfo (cs : List Char) : Option (List Char) × List Char :=
  if cs.contains '@' then
    let after := (cs.reverse.takeWhile (· != '@')).reverse
    (some (cs.take (cs.length - after.length - 1)), after)
  else (none, cs)

/-- The host, up to a colon outside brackets, and what follows it. -/
def splitHost : (inBrackets : Bool) → List Char → List Char × List Char
  | _, [] => ([], [])
  | inBrackets, c :: cs =>
    if c = ':' ∧ ¬ inBrackets then ([], c :: cs)
    else
      let (host, rest) := splitHost (if c = '[' then true else if c = ']' then false else inBrackets) cs
      (c :: host, rest)

/-- Part of the userinfo as it is kept. -/
def keepUserinfo (cs : List Char) : String :=
  String.ofList (Percent.encode Percent.inUserinfo cs)

/-- The port of the text after a host, none if it is left out or taken for granted, and what follows it:
nothing, or a backslash. -/
def port? (scheme : String) (cs : List Char) : Option (Option Nat × List Char) :=
  match cs with
  | ':' :: cs =>
    let digits := cs.takeWhile Char.isDigit
    let rest := cs.dropWhile Char.isDigit
    let port := Digits.toNat 10 (digits.map fun c => c.toNat - 48)
    if rest.head?.all (· == '\\') ∧ port ≤ 65535 then
      some (if digits.isEmpty ∨ defaultPorts.lookup scheme = some port then none else some port, rest)
    else none
  | _ => some (none, cs)

/-- Reads an authority; `atEnd` tells whether nothing follows it. Answers the authority and what of its
text belongs to the path. -/
def authority? (scheme : String) (atEnd : Bool) (cs : List Char) : Option (Authority × List Char) :=
  let (userinfo, place) := splitUserinfo cs
  let (user, password) := cutAt ':' (userinfo.getD [])
  let (hostText, afterHost) := splitHost false place
  if userinfo = some [] ∧ place.isEmpty ∧ ¬ atEnd then none
  else
    match Host.parse? (isSpecial scheme) hostText, port? scheme afterHost with
    | some host, some (port, rest) =>
      let authority : Authority := ⟨keepUserinfo user, keepUserinfo (password.getD []), host, port⟩
      if host = .name "" ∧ (¬ afterHost.isEmpty ∨ authority.credentials ≠ "") then none
      else some (authority, rest)
    | _, _ => none

/-! ## The whole -/

/-- The authority and the path of a scheme that is not special. -/
def plainBody? (scheme : String) (bare : Bool) (cs : List Char) : Option (Option Authority × Path) :=
  match cs with
  | '/' :: '/' :: rest =>
    let text := rest.takeWhile fun c => !endsAuthority false c
    let after := rest.dropWhile fun c => !endsAuthority false c
    match authority? scheme (bare && after.isEmpty) text with
    | none => none
    | some (authority, left) =>
      match left ++ after with
      | [] => some (some authority, .rooted [])
      | '/' :: path => some (some authority, Path.rootedAt false path)
      | path => some (some authority, Path.rootedAt false path)
  | '/' :: path => some (none, Path.rootedAt false path)
  | path => some (none, Path.verbatimOf path)

/-- The authority and the path of a special scheme other than `file`. -/
def specialBody? (scheme : String) (bare : Bool) (cs : List Char) : Option (Option Authority × Path) :=
  let rest := cs.dropWhile (endsAuthority true)
  let text := rest.takeWhile fun c => !endsAuthority true c
  let after := rest.dropWhile fun c => !endsAuthority true c
  match authority? scheme (bare && after.isEmpty) text with
  | none => none
  | some (authority, _) => some (some authority, Path.rootedAt true (after.drop 1))

/-- An authority that is only a host. -/
def hostOnly (host : Host) : Authority :=
  ⟨"", "", host, none⟩

/-- The host of a file; this machine is not named. -/
def fileHost? (cs : List Char) : Option Host :=
  if cs.isEmpty then some (.name "")
  else match Host.parse? true cs with
    | some host => some (if host = .name "localhost" then .name "" else host)
    | none => none

/-- Do the segments of a file's path start with a drive? -/
def nameDrive (segments : List (List Char)) : Bool :=
  segments.head?.any Path.isDriveLetter

/-- The host and the path of a file. A path that names a drive needs no host. -/
def fileBody? (cs : List Char) : Option (Option Authority × Path) :=
  let isSlash := endsAuthority true
  match cs with
  | a :: b :: rest =>
    if isSlash a ∧ isSlash b then
      let text := rest.takeWhile fun c => !isSlash c
      let after := rest.dropWhile fun c => !isSlash c
      if Path.isDriveLetter text then some (some (hostOnly (.name "")), Path.fileAt rest)
      else match fileHost? text with
        | none => none
        | some host =>
          let segments := Path.fileSegments (after.drop 1)
          some (some (hostOnly (if nameDrive segments then .name "" else host)),
            Path.ofFileSegments segments)
    else
      some (some (hostOnly (.name "")), Path.fileAt (if isSlash a then b :: rest else cs))
  | _ => some (some (hostOnly (.name "")), Path.fileAt (cs.dropWhile isSlash))

def ofChars? (cs : List Char) : Option Uri :=
  match scheme? (clean cs) with
  | none => none
  | some (scheme, rest) =>
    let (beforeFragment, fragment) := cutAt '#' rest
    let (place, query) := cutAt '?' beforeFragment
    let bare := query.isNone && fragment.isNone
    let found :=
      if scheme = "file" then fileBody? place
      else if isSpecial scheme then specialBody? scheme bare place
      else plainBody? scheme bare place
    found.map fun (authority, path) =>
      { scheme, authority, path
        query := query.map (keepQuery (isSpecial scheme))
        fragment := fragment.map keepFragment }

def parse? (s : String) : Option Uri :=
  ofChars? s.toList

end DidAdmission.Uri
