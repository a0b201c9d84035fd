-- SUMMARY: The times of a document are what its clocks show, and are compared as the clocks show them.
import DidAdmission.Admission.Checks
import DidAdmission.Proofs.Timestamp.Written

/-!
# Times of documents

Both times of a document are read from the text of a wall clock as what the clock shows, and the checks
compare them field by field, the year first. An offset has no part in either, so an instant that is the
earlier one may count as the later.
-/

namespace DidAdmission

/-! ## The order of clocks -/

namespace Timestamp

/-- Timestamps with natural numbers in their fields are in the order of lists. -/
theorem fieldsBefore_natCast {as bs : List Nat} (h : as.length = bs.length) :
    fieldsBefore (as.map Nat.cast) (bs.map Nat.cast) = true ↔ as < bs := by
  induction as generalizing bs with
  | nil =>
    obtain rfl := List.eq_nil_of_length_eq_zero h.symm
    simp [fieldsBefore]
  | cons a as ih =>
    cases bs with
    | nil => cases h
    | cons b bs =>
      have hrest := ih (Nat.succ.inj h)
      simp [fieldsBefore, List.cons_lt_cons_iff, hrest]

namespace WallClock

variable {v w : WallClock}

theorem before_iff : v.timestamp.before w.timestamp = true ↔ v.fields < w.fields := by
  have hlength : v.fields.length = w.fields.length := rfl
  exact fieldsBefore_natCast hlength

theorem timestamp_inj : v.timestamp = w.timestamp ↔ v.fields = w.fields := by
  simp [timestamp, fields]

end WallClock

end Timestamp

open Timestamp (IsMoment WallClock Zone)

/-! ## Documents -/

namespace Document

variable {d p : Document} {name : String} {w : WallClock}

/-- The field is the text of the clock, in some zone. -/
def Shows (d : Document) (name : String) (w : WallClock) : Prop :=
  ∃ z : Zone, d.submission.object.get? name = some (.text (w.text z))

theorem Shows.timestamp (h : d.Shows name w) : d.timestamp name = .ok (some w.timestamp) := by
  obtain ⟨z, hz⟩ := h
  exact timestamp_eq_ok_some_iff.2 ⟨_, hz, w.parse?_text z⟩

end Document

namespace Check

variable {d p : Document} {created updated before previous : WallClock}

theorem ownTimes_clocks (created updated : WallClock) :
    ownTimes (some created.timestamp) (some updated.timestamp) =
      if created.fields < updated.fields then .ok () else .error .temporalOrder := by
  simp only [ownTimes, WallClock.before_iff]

theorem succession_clocks (hcreated : d.Shows "created" created) (hupdated : d.Shows "updated" updated)
    (hbefore : p.Shows "created" before) (hprevious : p.Shows "updated" previous) :
    succession d p =
      if before.fields = created.fields ∧ previous.fields < updated.fields then .ok ()
      else .error .temporalOrder := by
  simp only [succession, Document.created, Document.updated, hcreated.timestamp, hupdated.timestamp,
    hbefore.timestamp, hprevious.timestamp, mapError_ok, ok_bind, WallClock.before_iff]
  by_cases hsame : before.fields = created.fields
  · have htime := WallClock.timestamp_inj.2 hsame
    simp [htime, hsame]
  · have htime : before.timestamp ≠ created.timestamp := mt WallClock.timestamp_inj.1 hsame
    simp [htime, hsame]

end Check

/-- Each time of a document is what its clock shows, in whatever zone the clock is written, and the checks
of the times go by the order of what is shown. -/
theorem Document.times_are_kept :
    (∀ (d : Document) (w : WallClock) (z : Zone),
      (d.submission.object.get? "created" = some (.text (w.text z)) →
        d.created = .ok (some w.timestamp)) ∧
      (d.submission.object.get? "updated" = some (.text (w.text z)) →
        d.updated = .ok (some w.timestamp))) ∧
    (∀ v w : WallClock, v.timestamp.before w.timestamp = true ↔ v.fields < w.fields) ∧
    (∀ created updated : WallClock,
      Check.ownTimes (some created.timestamp) (some updated.timestamp) =
        if created.fields < updated.fields then .ok () else .error .temporalOrder) ∧
    ∀ (d p : Document) (created updated before previous : WallClock),
      d.Shows "created" created → d.Shows "updated" updated →
      p.Shows "created" before → p.Shows "updated" previous →
      Check.succession d p =
        if before.fields = created.fields ∧ previous.fields < updated.fields then .ok ()
        else .error .temporalOrder := by
  refine ⟨fun d w z => ⟨fun h => ?_, fun h => ?_⟩, fun v w => WallClock.before_iff,
    Check.ownTimes_clocks, fun d p _ _ _ _ => Check.succession_clocks⟩
  · exact Shows.timestamp ⟨z, h⟩
  · exact Shows.timestamp ⟨z, h⟩

/-! ## A leap second

A document of the last second of a year, with more digits after the point than count, and its successor of
the leap second after that, whose offset puts it nearly a day earlier. -/

namespace Document

theorem isMoment_lastSecond : IsMoment 2016 12 31 23 59 59 :=
  ⟨by decide, ⟨by decide, by decide, by decide, by decide, by decide, by decide⟩, by decide, by decide,
    by decide⟩

theorem isMoment_leapSecond : IsMoment 2016 12 31 23 59 60 :=
  ⟨by decide, ⟨by decide, by decide, by decide, by decide, by decide, by decide⟩, by decide, by decide,
    by decide⟩

/-- The last second before the leap second: nine nines after the point, and a tenth digit. -/
def lastSecond (tenth : Fin 10) : WallClock :=
  ⟨2016, 12, 31, 23, 59, 59, List.replicate 9 (Fin.last 9) ++ [tenth], isMoment_lastSecond⟩

def leapSecond : WallClock :=
  ⟨2016, 12, 31, 23, 59, 60, [], isMoment_leapSecond⟩

def endOfYear : Document :=
  ⟨⟨"\x7b\"created\":\"2016-12-31T23:59:59.9999999998\",\"updated\":\"2016-12-31T23:59:59.9999999998Z\"\x7d",
    [("created", .text "2016-12-31T23:59:59.9999999998"),
      ("updated", .text "2016-12-31T23:59:59.9999999998Z")]⟩⟩

def inLeapSecond : Document :=
  ⟨⟨"\x7b\"created\":\"2016-12-31T23:59:59.9999999991-12:30\",\"updated\":\"2016-12-31T23:59:60+23:59\"\x7d",
    [("created", .text "2016-12-31T23:59:59.9999999991-12:30"),
      ("updated", .text "2016-12-31T23:59:60+23:59")]⟩⟩

theorem leap_second_succeeds :
    inLeapSecond.submission.object.get? "updated" =
        some (.text (leapSecond.text (.offset true 23 59))) ∧
      inLeapSecond.updated = .ok (some ⟨2016, 12, 31, 23, 59, 59, 1000000000⟩) ∧
      inLeapSecond.created = .ok (some ⟨2016, 12, 31, 23, 59, 59, 999999999⟩) ∧
      endOfYear.created = inLeapSecond.created ∧
      Check.succession inLeapSecond endOfYear = .ok () := by
  have htext : "2016-12-31T23:59:60+23:59" = leapSecond.text (.offset true 23 59) := by
    decide +kernel
  have hwest : "2016-12-31T23:59:59.9999999991-12:30" = (lastSecond 1).text (.offset false 12 30) := by
    decide +kernel
  have hlocal : "2016-12-31T23:59:59.9999999998" = (lastSecond 8).text .unstated := by decide +kernel
  have hutc : "2016-12-31T23:59:59.9999999998Z" = (lastSecond 8).text .utc := by decide +kernel
  have hupdated : inLeapSecond.submission.object.get? "updated" =
      some (.text (leapSecond.text (.offset true 23 59))) := by
    rw [← htext]
    rfl
  have hcreated : inLeapSecond.submission.object.get? "created" =
      some (.text ((lastSecond 1).text (.offset false 12 30))) := by
    rw [← hwest]
    rfl
  have hbefore : endOfYear.submission.object.get? "created" =
      some (.text ((lastSecond 8).text .unstated)) := by
    rw [← hlocal]
    rfl
  have hprevious : endOfYear.submission.object.get? "updated" =
      some (.text ((lastSecond 8).text .utc)) := by
    rw [← hutc]
    rfl
  obtain ⟨hread, -, -, hsuccession⟩ := times_are_kept
  have hcreatedAt := (hread _ _ _).1 hcreated
  have hshown : (lastSecond 1).timestamp = ⟨2016, 12, 31, 23, 59, 59, 999999999⟩ := by decide
  have hsame : (lastSecond 8).timestamp = (lastSecond 1).timestamp := by decide
  refine ⟨hupdated, (hread _ _ _).2 hupdated, hshown ▸ hcreatedAt, ?_, ?_⟩
  · rw [(hread _ _ _).1 hbefore, hcreatedAt, hsame]
  · rw [hsuccession _ _ _ _ _ _ ⟨_, hcreated⟩ ⟨_, hupdated⟩ ⟨_, hbefore⟩ ⟨_, hprevious⟩]
    exact if_pos (by decide)

end Document

end DidAdmission
