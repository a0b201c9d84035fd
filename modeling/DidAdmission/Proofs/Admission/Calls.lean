-- SUMMARY: What a question about an envelope comes down to once its texts have been read.
import DidAdmission.Admission.History

/-!
# Calls

A question about texts that can be read is answered by one check of the envelope, with the precursor if
there is one.
-/

namespace DidAdmission.Question

variable {profile : Profile} {question : Question} {instruction document : String} {e : Envelope}

/-- The check that a question asks for; there is none where a change has no precursor. -/
def check (question : Question) (profile : Profile) (e : Envelope) (precursor : Option Document) :
    Option (Logged Unit) :=
  match question with
  | .creation => some (e.creation profile)
  | .modification => precursor.map (e.modification profile)
  | .dispatch => e.dispatch profile precursor

theorem answer_eq_check {precursor : Option String} {current : Option Document}
    (henvelope : Envelope.parse instruction document = .ok e)
    (hcurrent : precursor.mapM Document.parse = .ok current) :
    question.answer profile instruction document precursor =
      .ofOption (question.check profile e current) := by
  simp only [answer, henvelope, hcurrent]
  cases question <;> rfl

theorem answer_creation (henvelope : Envelope.parse instruction document = .ok e) :
    Question.creation.answer profile instruction document none = .ofLogged (e.creation profile) :=
  answer_eq_check henvelope rfl

theorem answer_modification {current : String} {c : Document}
    (henvelope : Envelope.parse instruction document = .ok e)
    (hcurrent : Document.parse current = .ok c) :
    Question.modification.answer profile instruction document (some current) =
      .ofLogged (e.modification profile c) := by
  have hprecursor : (some current).mapM Document.parse = .ok (some c) := by
    rw [Option.mapM_some, hcurrent]
    rfl
  exact answer_eq_check henvelope hprecursor

end DidAdmission.Question
