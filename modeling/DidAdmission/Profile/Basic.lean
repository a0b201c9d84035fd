-- SUMMARY: Deployment profiles: what a deployment supports and how strictly it counts.
import DidAdmission.Identifier
import DidAdmission.Suite
import DidAdmission.Text.Quoted

/-!
# Profiles

Deployments differ in the suites they support, in how they count signatures, in whose signatures a
deletion needs, and in the networks they know.
-/

namespace DidAdmission

/-- How many signatures an instruction carries, as against the keys of the document. -/
inductive CountPolicy
  /-- One signature a key on creation, at least one a key otherwise. -/
  | exactForCreation
  /-- At least one signature a key. -/
  | atLeast
deriving DecidableEq, Repr

/-- Which keys of the current document must sign its deletion. -/
inductive DeletionPolicy
  | allKeys
  | anyKey
deriving DecidableEq, Repr

namespace CountPolicy

def named : List (String × CountPolicy) :=
  [("exact-for-creation", .exactForCreation), ("at-least", .atLeast)]

def name : CountPolicy → String
  | .exactForCreation => "exact-for-creation"
  | .atLeast => "at-least"

/-- The policy where a profile is shown. -/
def label : CountPolicy → String
  | .exactForCreation => "ExactForCreation"
  | .atLeast => "AtLeast"

end CountPolicy

namespace DeletionPolicy

def named : List (String × DeletionPolicy) :=
  [("all-keys", .allKeys), ("any-key", .anyKey)]

def name : DeletionPolicy → String
  | .allKeys => "all-keys"
  | .anyKey => "any-key"

/-- The policy where a profile is shown. -/
def label : DeletionPolicy → String
  | .allKeys => "AllKeys"
  | .anyKey => "AnyKey"

end DeletionPolicy

def Suite.named : List (String × Suite) :=
  Suite.all.map fun suite => (suite.name, suite)

/-- A deployment profile. -/
structure Profile where
  suites : List Suite
  signatureCount : CountPolicy
  deletion : DeletionPolicy
  strictNetwork : Bool
deriving DecidableEq, Repr

namespace Profile

/-- All suites, exact counting, all keys, known networks only. -/
def standard : Profile :=
  ⟨Suite.all, .exactForCreation, .allKeys, true⟩

/-- The standard profile with Ed25519 as its only suite. -/
def ed25519Only : Profile :=
  { standard with suites := [.ed25519] }

/-- Does the deployment support the suite? -/
def supports (p : Profile) (suite : Suite) : Bool :=
  p.suites.contains suite

@[simp] theorem supports_iff {p : Profile} {suite : Suite} :
    p.supports suite = true ↔ suite ∈ p.suites :=
  List.contains_iff_mem

/-- What happens to networks outside the known set. -/
def networkPolicy (p : Profile) : NetworkPolicy :=
  if p.strictNetwork then .strict else .lenient

/-- The profile as it is shown in a log. -/
def text (p : Profile) : String :=
  "ValidatorConfig \x7b supported_suites: " ++ Text.bracketed (p.suites.map Suite.label)
    ++ ", signature_count: " ++ p.signatureCount.label
    ++ ", deletion_policy: " ++ p.deletion.label
    ++ ", strict_network: " ++ (if p.strictNetwork then "true" else "false") ++ " \x7d"

end Profile

end DidAdmission
