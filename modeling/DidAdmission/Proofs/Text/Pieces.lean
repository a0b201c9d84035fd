-- SUMMARY: Texts cut into pieces at a separator, and pieces joined by one.
import DidAdmission.Text.Blank

/-!
# Pieces

A text is joined from pieces with a separator between any two, and cut into them again. Where two texts are
put in a row, the last piece of the one and the first of the other become one piece.
-/

namespace DidAdmission.Text

/-! ## Joined pieces -/

/-- A character of joined pieces is the separator or stands in a piece. -/
theorem mem_intercalate {separator c : Char} {pieces : List (List Char)}
    (h : c ∈ [separator].intercalate pieces) : c = separator ∨ ∃ piece ∈ pieces, c ∈ piece := by
  induction pieces with
  | nil => cases h
  | cons piece pieces ih =>
    cases pieces with
    | nil =>
      rw [List.intercalate_singleton] at h
      exact .inr ⟨piece, List.mem_cons_self, h⟩
    | cons next pieces =>
      rw [List.intercalate_cons_cons, List.mem_append, List.mem_append] at h
      rcases h with (h | h) | h
      · exact .inr ⟨piece, List.mem_cons_self, h⟩
      · exact .inl (List.mem_singleton.1 h)
      · exact (ih h).imp_right fun ⟨other, hother, hc⟩ => ⟨other, .tail _ hother, hc⟩

theorem mem_intercalate_of_mem {separator c : Char} {piece : List Char} {pieces : List (List Char)}
    (hpiece : piece ∈ pieces) (hc : c ∈ piece) : c ∈ [separator].intercalate pieces := by
  induction pieces with
  | nil => cases hpiece
  | cons first pieces ih =>
    cases pieces with
    | nil =>
      obtain rfl := List.mem_singleton.1 hpiece
      rwa [List.intercalate_singleton]
    | cons next pieces =>
      rw [List.intercalate_cons_cons, List.mem_append, List.mem_append]
      rcases List.mem_cons.1 hpiece with rfl | hpiece
      · exact .inl (.inl hc)
      · exact .inr (ih hpiece)

theorem map_intercalate {separator : Char} {f : Char → Char} (hseparator : f separator = separator)
    (pieces : List (List Char)) :
    ([separator].intercalate pieces).map f = [separator].intercalate (pieces.map (List.map f)) := by
  induction pieces with
  | nil => rfl
  | cons piece pieces ih =>
    cases pieces with
    | nil => simp
    | cons next pieces =>
      rw [List.intercalate_cons_cons, List.map_append, List.map_append, ih]
      simp [hseparator]

/-- Without the separators only the pieces are left. -/
theorem filter_intercalate {separator : Char} {pieces : List (List Char)}
    (h : ∀ piece ∈ pieces, separator ∉ piece) :
    ([separator].intercalate pieces).filter (· != separator) = pieces.flatten := by
  induction pieces with
  | nil => rfl
  | cons piece pieces ih =>
    obtain ⟨hpiece, hpieces⟩ := List.forall_mem_cons.1 h
    have hkept : piece.filter (· != separator) = piece := by
      rw [List.filter_eq_self]
      intro c hc
      exact bne_iff_ne.2 fun heq => hpiece (heq ▸ hc)
    cases pieces with
    | nil => simpa using hkept
    | cons next pieces =>
      rw [List.intercalate_cons_cons, List.filter_append, List.filter_append, hkept, ih hpieces]
      simp

/-! ## Texts in a row -/

/-- Two texts in a row are cut as each is, but the pieces where they meet are one. -/
theorem splitWhere_append (p : Char → Bool) (cs next : List Char) :
    ∃ front piece following back, splitWhere p cs = front ++ [piece] ∧
      splitWhere p next = following :: back ∧
      splitWhere p (cs ++ next) = front ++ (piece ++ following) :: back := by
  induction cs with
  | nil =>
    obtain ⟨following, back, hnext⟩ := List.exists_cons_of_ne_nil (splitWhere_ne_nil p next)
    exact ⟨[], [], following, back, rfl, hnext, hnext⟩
  | cons c cs ih =>
    obtain ⟨front, piece, following, back, hcs, hnext, hjoined⟩ := ih
    simp only [List.cons_append, splitWhere, hcs, hnext, hjoined]
    by_cases hc : p c = true
    · exact ⟨[] :: front, piece, following, back, by simp [hc]⟩
    · cases front with
      | nil => exact ⟨[], c :: piece, following, back, by simp [hc]⟩
      | cons first front => exact ⟨(c :: first) :: front, piece, following, back, by simp [hc]⟩

end DidAdmission.Text
