-- SUMMARY: Checks that leave a record of what they saw.
import DidAdmission.Admission.Rejection
import DidAdmission.Journal

/-!
# Logged checks

A logged check answers a value or a rejection, and the events on the way to it, oldest first. A check that
follows a rejection is not run, and its events do not occur.
-/

namespace DidAdmission

/-- What happens while an envelope is checked. -/
inductive Event
  /-- All checks that need no cryptography have passed. -/
  | structureAccepted (id : Identifier) (keys : Nat)
  /-- A signature has been checked under a key. -/
  | signatureChecked (key : Uri) (suite : Suite) (valid : Bool)
  /-- The signatures of all keys of the document are valid. -/
  | signaturesVerified (count : Nat) (id : Identifier)
  /-- All keys of the precursor have signed. -/
  | precursorResigned (count : Nat)
  | rejected (rejection : Rejection)
deriving DecidableEq, Repr

def Event.line : Event → LogLine
  | .structureAccepted id keys =>
    ⟨.debug, "structure of " ++ id.text ++ " accepted with " ++ toString keys ++ " key(s)"⟩
  | .signatureChecked key suite valid =>
    ⟨.trace, "signature for " ++ key.text ++ " (" ++ suite.display ++ "): valid="
      ++ (if valid then "true" else "false")⟩
  | .signaturesVerified count id =>
    ⟨.debug, "all " ++ toString count ++ " signature(s) on " ++ id.text ++ " verified"⟩
  | .precursorResigned count => ⟨.debug, toString count ++ " precursor key(s) re-signed"⟩
  | .rejected rejection => ⟨.info, "envelope rejected: " ++ rejection.message⟩

/-- A value or a rejection, and the events on the way. -/
structure Logged (α : Type) where
  events : List Event
  outcome : Except Rejection α

namespace Logged

def ofExcept {α : Type} (outcome : Except Rejection α) : Logged α :=
  ⟨[], outcome⟩

def accept {α : Type} (value : α) : Logged α :=
  ⟨[], .ok value⟩

def reject {α : Type} (rejection : Rejection) : Logged α :=
  ⟨[], .error rejection⟩

def note (event : Event) : Logged Unit :=
  ⟨[event], .ok ()⟩

def andThen {α β : Type} (x : Logged α) (f : α → Logged β) : Logged β :=
  match x.outcome with
  | .error rejection => ⟨x.events, .error rejection⟩
  | .ok value => ⟨x.events ++ (f value).events, (f value).outcome⟩

instance : Monad Logged where
  pure := accept
  bind := andThen

/-- Records the rejection, if there is one, as the last event. -/
def reported {α : Type} (x : Logged α) : Logged α :=
  match x.outcome with
  | .error rejection => ⟨x.events ++ [.rejected rejection], .error rejection⟩
  | .ok value => ⟨x.events, .ok value⟩

@[simp] theorem outcome_ofExcept {α : Type} (x : Except Rejection α) : (ofExcept x).outcome = x := rfl

@[simp] theorem events_ofExcept {α : Type} (x : Except Rejection α) : (ofExcept x).events = [] := rfl

@[simp] theorem outcome_note (e : Event) : (note e).outcome = .ok () := rfl

@[simp] theorem events_note (e : Event) : (note e).events = [e] := rfl

@[simp] theorem outcome_pure {α : Type} (a : α) : (pure a : Logged α).outcome = .ok a := rfl

@[simp] theorem events_pure {α : Type} (a : α) : (pure a : Logged α).events = [] := rfl

@[simp] theorem ofExcept_ok_bind {α β : Type} (a : α) (f : α → Logged β) :
    (ofExcept (.ok a) >>= f) = f a := rfl

@[simp] theorem accept_bind {α β : Type} (a : α) (f : α → Logged β) : (accept a >>= f) = f a := rfl

theorem bind_assoc {α β γ : Type} (x : Logged α) (f : α → Logged β) (g : β → Logged γ) :
    (x >>= f >>= g) = x >>= fun a => f a >>= g := by
  simp only [bind, andThen]
  cases x.outcome with
  | error rejection => rfl
  | ok a =>
    cases hf : (f a).outcome with
    | error rejection => simp only [hf]
    | ok b => simp only [hf, List.append_assoc]

/-- What follows a check counts only where the check passes. -/
theorem bind_congr {α β : Type} {x : Logged α} {f g : α → Logged β}
    (h : ∀ a, x.outcome = .ok a → f a = g a) : (x >>= f) = x >>= g := by
  simp only [bind, andThen]
  cases hx : x.outcome with
  | error rejection => rfl
  | ok a => simp only [h a hx]

/-- The outcome of two checks does not depend on their events. -/
theorem outcome_bind {α β : Type} (x : Logged α) (f : α → Logged β) :
    (x >>= f).outcome = x.outcome >>= fun a => (f a).outcome := by
  simp only [bind, andThen]
  cases x.outcome <;> rfl

@[simp] theorem outcome_reported {α : Type} (x : Logged α) : x.reported.outcome = x.outcome := by
  unfold reported
  split <;> simp_all

theorem outcome_bind_eq_ok_iff {α β : Type} {x : Logged α} {f : α → Logged β} {b : β} :
    (x >>= f).outcome = .ok b ↔ ∃ a, x.outcome = .ok a ∧ (f a).outcome = .ok b := by
  rw [outcome_bind, bind_eq_ok_iff]

theorem outcome_bind_unit_eq_ok_iff {β : Type} {x : Logged Unit} {f : Unit → Logged β} {b : β} :
    (x >>= f).outcome = .ok b ↔ x.outcome = .ok () ∧ (f ()).outcome = .ok b := by
  rw [outcome_bind, bind_unit_eq_ok_iff]

end Logged

end DidAdmission
