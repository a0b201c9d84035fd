-- SUMMARY: Loading a profile from a file with the environment laid over it.
import DidAdmission.Journal
import DidAdmission.Profile.Read
import DidAdmission.Profile.Setting

/-!
# Loading profiles

A profile is made of the settings of a file, if one is named, and of the variables whose names start with
`did_envelope_` in any case; the variables win, field by field. What no source sets has its standard
value.
-/

namespace DidAdmission.Profile

/-- The file a profile is loaded from. -/
inductive File
  /-- No file is named. -/
  | unnamed
  /-- The file that is named does not exist. -/
  | missing
  | text (content : String)
deriving DecidableEq, Repr

/-- Why a profile cannot be loaded. -/
inductive LoadFailure
  | unreadable
  /-- A key leads to an item before the start of a list. Loading is aborted there. -/
  | beforeStart
  | invalid
deriving DecidableEq, Repr

def LoadFailure.message : LoadFailure → String
  | .unreadable => "failed to read validator configuration"
  | .beforeStart => "attempt to subtract with overflow"
  | .invalid => "invalid validator configuration"

/-! ## Sources -/

/-- The settings of a file, unless it cannot be read. A file that is not an object sets nothing. -/
def File.settings? : File → Option (List (String × Setting))
  | .unnamed => some []
  | .missing => none
  | .text content =>
    match Json.read content with
    | .ok (.object members) => some (Setting.ofMembers members)
    | .ok _ => some []
    | .error _ => none

/-- How the names of the variables start. -/
def variableLead : List Char := "did_envelope_".toList

/-- The key that a variable sets, if it sets one. -/
def variableKey? (name : String) : Option String :=
  (Text.dropLead? variableLead (Setting.lower name.toList)).map String.ofList

/-- The settings of the environment, in the order of its variables. -/
def variableSettings (environment : List (String × String)) : List (String × Setting) :=
  environment.filterMap fun (name, value) =>
    (variableKey? name).map fun key => (key, Setting.ofVariable value)

/-! ## Fields -/

/-- The truth value a setting stands for: a number stands for whether it is not zero. -/
def switch? : Setting → Option Bool
  | .boolean b => some b
  | .number isZero => some (!isZero)
  | .text s =>
    let word := String.ofList (Setting.lower s.toList)
    if ["1", "true", "on", "yes"].contains word then some true
    else if ["0", "false", "off", "no"].contains word then some false
    else none
  | _ => none

/-- The value whose name a setting gives, alone or as the only key of a table. -/
def choice? {α : Type} (known : List (String × α)) : Setting → Option α
  | .text name => known.lookup name
  | .table [(name, _)] => known.lookup name
  | _ => none

/-- The suites that a setting lists. -/
def suiteList? : Setting → Option (List Suite)
  | .list items => items.mapM (choice? Suite.named)
  | _ => none

/-- The value of a field: read from its setting, or the standard one if it has none. -/
def field? {α : Type} (settings : Setting) (name : String) (read? : Setting → Option α)
    (standard : α) : Option α :=
  match settings.get? name with
  | none => some standard
  | some setting => read? setting

def ofSettings? (settings : Setting) : Option Profile := do
  let suites ← field? settings Member.suites.name suiteList? standard.suites
  let signatureCount ←
    field? settings Member.signatureCount.name (choice? CountPolicy.named) standard.signatureCount
  let deletion ←
    field? settings Member.deletion.name (choice? DeletionPolicy.named) standard.deletion
  let strictNetwork ←
    field? settings Member.strictNetwork.name switch? standard.strictNetwork
  some { suites, signatureCount, deletion, strictNetwork }

/-- Loads a profile from a file and the environment. -/
def load (file : File) (environment : List (String × String)) : Except LoadFailure Profile :=
  match file.settings? with
  | none => .error .unreadable
  | some settings =>
    let fromFile := Setting.layer? (.table []) settings
    match fromFile.bind (Setting.layer? · (variableSettings environment)) with
    | none => .error .beforeStart
    | some merged =>
      match ofSettings? merged with
      | none => .error .invalid
      | some profile => .ok profile

/-- What is logged when a profile has been loaded. -/
def loadLog : Except LoadFailure Profile → List LogLine
  | .ok profile => [⟨.debug, "loaded validator configuration: " ++ profile.text⟩]
  | .error _ => []

end DidAdmission.Profile
