-- SUMMARY: Texts that are objects by their grammar, whether or not their members can be read.
import DidAdmission.Proofs.Json.Members
import DidAdmission.Proofs.Json.Skimming

/-!
# Texts of objects

Passing over a value goes on from turn to turn alike whatever is open around it (`skims_of_skim`), as
reading one does. So a text is that of an object (`IsObjectText`) when it starts with a brace and can be
passed over to its end. Not every such text can be read, but one that can is read as an object.
-/

namespace DidAdmission.Json

variable {s rest : List Char}

/-! ## Lengths -/

theorem length_le_of_skipChars {skip : Nat} (h : skipChars skip s = .ok rest) :
    rest.length ≤ s.length := by
  induction s generalizing skip with
  | nil => cases skip <;> cases h
  | cons c s ih =>
    refine (?_ : rest.length ≤ s.length).trans (Nat.le_succ _)
    cases skip with
    | succ skip => exact ih h
    | zero =>
      rw [skipChars] at h
      split_ifs at h
      · cases h
        exact le_rfl
      · split at h
        · cases h
        · exact ih h
      · exact ih h

theorem length_le_of_skipKey {frame : Frame} (h : frame.skipKey s = .ok rest) :
    rest.length ≤ s.length := by
  cases frame with
  | list =>
    cases h
    exact le_rfl
  | object =>
    have hle := length_skipSpace_le s
    rw [Frame.skipKey] at h
    split at h
    case h_2 tail hs =>
      obtain ⟨after, hstring, hcolon⟩ := bind_eq_ok_iff.1 h
      have hafter := length_le_of_skipChars hstring
      have hrest := length_lt_of_skipColon hcolon
      rw [hs, List.length_cons] at hle
      omega
    all_goals cases h

theorem length_le_of_unwind {afterValue : Bool} {inner frames : List Frame}
    (h : unwind afterValue inner s = .ok (frames, rest)) : rest.length ≤ s.length := by
  induction inner generalizing afterValue s with
  | nil =>
    cases h
    exact le_rfl
  | cons frame inner ih =>
    have hle := length_skipSpace_le s
    rw [unwind] at h
    split at h
    · cases h
    · next c tail hs =>
      rw [hs, List.length_cons] at hle
      split_ifs at h
      · obtain ⟨after, hkey, hfound⟩ := map_eq_ok_iff.1 h
        cases hfound
        have := length_le_of_skipKey hkey
        omega
      · have := ih h
        omega
      · obtain ⟨after, hkey, hfound⟩ := map_eq_ok_iff.1 h
        cases hfound
        have := length_le_of_skipKey hkey
        rw [List.length_cons] at this
        omega

theorem length_lt_of_scanNumber {atEnd : Fault} {negative : Bool} {numeral : NumeralText}
    (h : scanNumber atEnd negative s = .ok (numeral, rest)) : rest.length < s.length :=
  (scanNumber_congr h : scanNumber atEnd negative s = .ok (numeral, rest) ∧ _).2

theorem length_lt_of_skimScalar {c : Char} {tail : List Char} (h : skimScalar (c :: tail) = .ok rest) :
    rest.length < (c :: tail).length := by
  rw [skimScalar] at h
  rw [List.length_cons]
  split_ifs at h
  iterate 3 exact Nat.lt_succ_of_le (length_le_of_skipWord h)
  · obtain ⟨⟨numeral, after⟩, hscan, rfl⟩ := map_eq_ok_iff.1 h
    exact Nat.lt_succ_of_lt (length_lt_of_scanNumber hscan)
  · obtain ⟨⟨numeral, after⟩, hscan, rfl⟩ := map_eq_ok_iff.1 h
    exact length_lt_of_scanNumber hscan
  · exact Nat.lt_succ_of_le (length_le_of_skipChars h)

/-! ## Frames around a value -/

/-- Frames close as they do alone, and once they all have, those around them go on to close. -/
theorem unwind_append {afterValue : Bool} {inner found : List Frame}
    (h : unwind afterValue inner s = .ok (found, rest)) (hvalue : afterValue = true ∨ inner ≠ [])
    (frames : List Frame) : unwind afterValue (inner ++ frames) s =
      if found = [] then unwind true frames rest else .ok (found ++ frames, rest) := by
  induction inner generalizing afterValue s with
  | nil =>
    cases h
    obtain rfl := hvalue.resolve_right (· rfl)
    rfl
  | cons frame inner ih =>
    rw [unwind] at h
    rw [List.cons_append, unwind]
    split at h
    · cases h
    · split_ifs at h with hcomma hcloser hafter
      · obtain ⟨after, hkey, hfound⟩ := map_eq_ok_iff.1 h
        cases hfound
        simp [hcomma, hkey, Except.map]
      · simp only [if_neg hcomma, if_pos hcloser]
        exact ih h (.inl rfl)
      · obtain ⟨after, hkey, hfound⟩ := map_eq_ok_iff.1 h
        cases hfound
        simp [hcloser, hafter, hkey, Except.map]

/-- Some turns of a skim pass over the rest of the open frames, whatever is open around them. -/
def Passes (inner : List Frame) (s rest : List Char) : Prop :=
  ∃ turns, turns + rest.length ≤ s.length ∧
    ∀ fuel frames, skimWithin (fuel + turns) (inner ++ frames) s = resume true frames fuel rest

theorem passes_of_resume {afterValue : Bool} {inner : List Frame} {fuel : Nat}
    (hskim : ∀ ⦃inner s⦄, skimWithin fuel inner s = .ok rest → Passes inner s rest)
    (hvalue : afterValue = true ∨ inner ≠ []) (h : resume afterValue inner fuel s = .ok rest) :
    ∃ turns, turns + rest.length ≤ s.length ∧ ∀ fuel frames,
      resume afterValue (inner ++ frames) (fuel + turns) s = resume true frames fuel rest := by
  obtain ⟨⟨found, after⟩, hunwind, hrest⟩ := bind_eq_ok_iff.1 h
  have hle := length_le_of_unwind hunwind
  have happend := unwind_append hunwind hvalue
  cases found with
  | nil =>
    cases hrest
    refine ⟨0, by omega, fun fuel frames => ?_⟩
    rw [resume, happend frames, if_pos rfl]
    rfl
  | cons frame found =>
    obtain ⟨turns, hturns, hpass⟩ := hskim hrest
    refine ⟨turns, by omega, fun fuel frames => ?_⟩
    rw [resume, happend frames, if_neg (List.cons_ne_nil _ _), ← hpass fuel frames]
    rfl

/-- The induction is on the fuel: a turn goes on to fewer turns, with the frames it has left open. -/
theorem passes_of_skimWithin {fuel : Nat} {inner : List Frame}
    (h : skimWithin fuel inner s = .ok rest) : Passes inner s rest := by
  induction fuel generalizing inner s with
  | zero => cases h
  | succ fuel ih =>
    have hle := length_skipSpace_le s
    rw [skimWithin_succ] at h
    -- One turn more than what is left after the start of the value.
    suffices hafter : ∃ turns, turns + rest.length < (skipSpace s).length ∧ ∀ fuel frames,
        skimWithin (fuel + turns + 1) (inner ++ frames) s = resume true frames fuel rest by
      obtain ⟨turns, hturns, hpass⟩ := hafter
      exact ⟨turns + 1, by omega, hpass⟩
    simp only [skimWithin_succ]
    split at h
    · cases h
    · next c tail hs =>
      rw [hs]
      simp only [List.length_cons]
      split_ifs at h with hlist hobject
      · obtain ⟨turns, hturns, hpass⟩ := passes_of_resume (fun _ _ => ih) (.inr (List.cons_ne_nil _ _)) h
        refine ⟨turns, by omega, fun fuel frames => ?_⟩
        rw [if_pos hlist]
        exact hpass fuel frames
      · obtain ⟨turns, hturns, hpass⟩ := passes_of_resume (fun _ _ => ih) (.inr (List.cons_ne_nil _ _)) h
        refine ⟨turns, by omega, fun fuel frames => ?_⟩
        rw [if_neg hlist, if_pos hobject]
        exact hpass fuel frames
      · obtain ⟨after, hscalar, hafter⟩ := bind_eq_ok_iff.1 h
        obtain ⟨turns, hturns, hpass⟩ := passes_of_resume (fun _ _ => ih) (.inl rfl) hafter
        have hlt := length_lt_of_skimScalar hscalar
        rw [List.length_cons] at hlt
        refine ⟨turns, by omega, fun fuel frames => ?_⟩
        rw [if_neg hlist, if_neg hobject, hscalar]
        exact hpass fuel frames

/-- A value that can be passed over on its own can be passed over in any frames. -/
theorem skims_of_skim (h : skim s = .ok rest) : Skims s rest :=
  passes_of_skimWithin h

/-! ## Texts of objects -/

/-- The text starts with a brace and can be passed over to its end. -/
def IsObjectText (t : String) : Prop :=
  ∃ tail rest, skipSpace t.toList = '{' :: tail ∧ skim t.toList = .ok rest ∧ endOfText rest = .ok ()

theorem start_of_read {t : String} {value : Json} (h : read t = .ok value) :
    ∃ c tail rest, skipSpace t.toList = c :: tail ∧ Leads c value ∧ skim t.toList = .ok rest ∧
      endOfText rest = .ok () := by
  simp only [read, bind_eq_ok_iff, Prod.exists, Except.ok.injEq] at h
  obtain ⟨value, rest, hvalue, _, hend, rfl⟩ := h
  obtain ⟨-, c, tail, -, hs, hleads⟩ := exists_start_of_readValue hvalue
  exact ⟨c, tail, rest, hs, hleads, skim_of_readValue hvalue, hend⟩

/-- A text that can be read is that of an object just if it is read as one. -/
theorem isObjectText_iff_of_read {t : String} {value : Json} (h : read t = .ok value) :
    IsObjectText t ↔ ∃ object, value = .object object := by
  obtain ⟨c, tail, rest, hs, hleads, hskim, hend⟩ := start_of_read h
  constructor
  · rintro ⟨tail', rest', hbrace, -⟩
    obtain ⟨rfl, rfl⟩ := List.cons.inj (hs.symm.trans hbrace)
    cases value with
    | object object => exact ⟨object, rfl⟩
    | _ => simp [Leads] at hleads
  · rintro ⟨object, rfl⟩
    obtain rfl : c = '{' := hleads
    exact ⟨tail, rest, hs, hskim, hend⟩

end DidAdmission.Json
