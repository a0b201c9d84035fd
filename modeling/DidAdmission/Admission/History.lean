-- SUMMARY: Following a document through a run of submissions.
import DidAdmission.Admission.Judge

/-!
# Histories

The document accepted last is the precursor of the next change; an accepted deletion leaves none. A
submission that is not accepted changes nothing.
-/

namespace DidAdmission

/-- What becomes of a submission. -/
inductive Verdict
  | accepted
  | rejected (rejection : Rejection)
  /-- A change was asked for where there is no document to change. -/
  | precursorRequired
deriving DecidableEq, Repr

/-- The wording for a change without a document. -/
def Verdict.precursorMessage : String :=
  "modification validation requires a precursor document"

/-- A verdict with the events on the way to it. -/
structure Judgement where
  verdict : Verdict
  events : List Event

namespace Judgement

/-- The judgement of a check that has been run. -/
def ofLogged (x : Logged Unit) : Judgement :=
  match x.outcome with
  | .ok () => ⟨.accepted, x.events⟩
  | .error rejection => ⟨.rejected rejection, x.events⟩

theorem verdict_ofLogged_eq_rejected_iff {x : Logged Unit} {rejection : Rejection} :
    (ofLogged x).verdict = .rejected rejection ↔ x.outcome = .error rejection := by
  unfold ofLogged
  split <;> simp_all

/-- The judgement of a check that has an answer only with a precursor. -/
def ofOption : Option (Logged Unit) → Judgement
  | some x => ofLogged x
  | none => ⟨.precursorRequired, []⟩

def unread (rejection : Rejection) : Judgement :=
  ⟨.rejected rejection, []⟩

end Judgement

/-- The question that is asked about an envelope. -/
inductive Question
  | creation
  | modification
  | dispatch
deriving DecidableEq, Repr

/-- Reads the texts and answers the question about them. -/
def Question.answer (question : Question) (profile : Profile) (instruction document : String)
    (precursor : Option String) : Judgement :=
  match Envelope.parse instruction document with
  | .error rejection => .unread rejection
  | .ok e =>
    match precursor.mapM Document.parse with
    | .error reason => .unread (.malformedJson reason)
    | .ok precursor =>
      match question with
      | .creation => .ofLogged (e.creation profile)
      | .modification => .ofOption (precursor.map (e.modification profile))
      | .dispatch => .ofOption (e.dispatch profile precursor)

namespace History

/-- An instruction and a document, as submitted. -/
structure Step where
  instruction : String
  document : String
deriving DecidableEq, Repr

/-- What becomes of a step, and the current document after it. -/
structure Report where
  judgement : Judgement
  current : Option Document

/-- The current document after an accepted envelope. -/
def successor (e : Envelope) : Option Document :=
  match e.action with
  | .ok .delete => none
  | _ => some e.document

/-- Takes one step from the current document. -/
def step (profile : Profile) (current : Option Document) (s : Step) : Report :=
  match Envelope.parse s.instruction s.document with
  | .error rejection => ⟨.unread rejection, current⟩
  | .ok e =>
    let judgement := Judgement.ofOption (e.dispatch profile current)
    ⟨judgement, if judgement.verdict = .accepted then successor e else current⟩

def run (profile : Profile) : (current : Option Document) → List Step → List Report
  | _, [] => []
  | current, s :: rest =>
    let report := step profile current s
    report :: run profile report.current rest

end History

end DidAdmission
