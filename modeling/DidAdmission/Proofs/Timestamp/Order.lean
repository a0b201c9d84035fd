-- SUMMARY: Being earlier is a strict order of timestamps.
import DidAdmission.Timestamp

/-!
# The order of timestamps

Timestamps are compared field by field, the largest unit first. No timestamp is before itself, and
what is before an earlier one is before a later one, leap seconds included.
-/

namespace DidAdmission.Timestamp

theorem fieldsBefore_irrefl (as : List Int) : fieldsBefore as as = false := by
  induction as with
  | nil => rfl
  | cons a as ih => simp [fieldsBefore, ih]

theorem fieldsBefore_trans {as bs cs : List Int} (hab : fieldsBefore as bs = true)
    (hbc : fieldsBefore bs cs = true) : fieldsBefore as cs = true := by
  induction as generalizing bs cs with
  | nil => simp [fieldsBefore] at hab
  | cons a as ih =>
    cases bs with
    | nil => simp [fieldsBefore] at hab
    | cons b bs =>
      cases cs with
      | nil => simp [fieldsBefore] at hbc
      | cons c cs =>
        simp only [fieldsBefore, Bool.or_eq_true, decide_eq_true_eq, Bool.and_eq_true,
          beq_iff_eq] at hab hbc ⊢
        rcases hab with hab | ⟨rfl, has⟩
        · rcases hbc with hbc | ⟨rfl, -⟩
          · exact .inl (Int.lt_trans hab hbc)
          · exact .inl hab
        · rcases hbc with hbc | ⟨rfl, hbs⟩
          · exact .inl hbc
          · exact .inr ⟨rfl, ih has hbs⟩

theorem before_irrefl (t : Timestamp) : t.before t = false :=
  fieldsBefore_irrefl t.fields

theorem before_trans {s t u : Timestamp} (hst : s.before t = true) (htu : t.before u = true) :
    s.before u = true :=
  fieldsBefore_trans hst htu

theorem before_asymm {s t : Timestamp} (h : s.before t = true) : t.before s = false := by
  cases hts : t.before s with
  | false => rfl
  | true => exact absurd (before_trans h hts) (by simp [before_irrefl])

end DidAdmission.Timestamp
