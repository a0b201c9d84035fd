-- SUMMARY: What trimming leaves of a text, and of two texts in a row.
import DidAdmission.Text.Blank
import Mathlib.Data.List.DropRight
import Mathlib.Data.List.TakeWhile

/-!
# Trimming

Trimming a text leaves the one text with no blank at its ends that stands in it between blanks. Two texts
in a row are trimmed at their outer ends only: where they meet, blanks stay.
-/

namespace DidAdmission.Text

/-- The text has only blanks, or nothing at all. -/
def Blank (cs : List Char) : Prop :=
  ∀ c ∈ cs, isBlank c = true

/-- The text has no blank at either end. -/
structure Tight (cs : List Char) : Prop where
  head : ∀ c ∈ cs.head?, isBlank c = false
  last : ∀ c ∈ cs.getLast?, isBlank c = false

variable {cs line left right : List Char}

theorem blank_nil : Blank [] :=
  List.forall_mem_nil _

theorem Blank.append (hleft : Blank left) (hright : Blank right) : Blank (left ++ right) :=
  List.forall_mem_append.2 ⟨hleft, hright⟩

theorem tight_nil : Tight [] where
  head := by simp
  last := by simp

theorem tight_of_forall (h : ∀ c ∈ cs, isBlank c = false) : Tight cs where
  head c hc := h c (List.mem_of_mem_head? hc)
  last c hc := h c (List.mem_of_mem_getLast? hc)

/-- Whatever stands between two texts with no blank at their ends. -/
theorem Tight.append {next : List Char} (hline : Tight line) (hnext : Tight next) (hne : line ≠ [])
    (hne' : next ≠ []) (mid : List Char) : Tight (line ++ mid ++ next) where
  head := by
    rw [List.append_assoc, List.head?_append_of_ne_nil _ hne]
    exact hline.head
  last := by
    rw [List.getLast?_append_of_ne_nil _ hne']
    exact hnext.last

/-- Blanks in front of a text that does not start with one are what trimming drops first. -/
theorem dropWhile_blank_append (hleft : Blank left) (hhead : ∀ c ∈ cs.head?, isBlank c = false) :
    (left ++ cs).dropWhile isBlank = cs := by
  rw [List.dropWhile_append_of_pos hleft]
  cases cs with
  | nil => rfl
  | cons c cs => rw [List.dropWhile_cons_of_neg (by simp [hhead c rfl])]

theorem trim_blank (h : Blank cs) : trim cs = [] := by
  rw [trim, trimBoth, List.dropWhile_eq_nil_iff.2 h]
  rfl

/-- Trimming finds the text between the blanks. -/
theorem trim_append_blank (hleft : Blank left) (htight : Tight line) (hright : Blank right) :
    trim (left ++ line ++ right) = line := by
  rcases eq_or_ne line [] with rfl | hne
  · exact trim_blank (hleft.append blank_nil |>.append hright)
  · have hhead : ∀ c ∈ (line ++ right).head?, isBlank c = false := by
      rw [List.head?_append_of_ne_nil _ hne]
      exact htight.head
    have hlast : ∀ c ∈ line.reverse.head?, isBlank c = false := by
      rw [List.head?_reverse]
      exact htight.last
    have hreversed : Blank right.reverse := fun c hc => hright c (List.mem_reverse.1 hc)
    rw [trim, trimBoth, List.append_assoc, dropWhile_blank_append hleft hhead, List.reverse_append,
      dropWhile_blank_append hreversed hlast, List.reverse_reverse]

/-- A text is blanks, what trimming leaves of it, and blanks. -/
theorem exists_blanks_of_trim (cs : List Char) :
    Tight (trim cs) ∧ ∃ left right, cs = left ++ trim cs ++ right ∧ Blank left ∧ Blank right := by
  have hcut : cs.dropWhile isBlank = trim cs ++ (cs.dropWhile isBlank).rtakeWhile isBlank :=
    List.rdropWhile_append_rtakeWhile.symm
  refine ⟨⟨fun c hc => ?_, fun c hc => ?_⟩, cs.takeWhile isBlank,
    (cs.dropWhile isBlank).rtakeWhile isBlank, ?_, fun c hc => List.mem_takeWhile_imp hc,
    fun c hc => List.mem_rtakeWhile_imp hc⟩
  · have hne : trim cs ≠ [] := by
      intro heq
      rw [heq] at hc
      cases hc
    rw [← List.head?_append_of_ne_nil _ hne, ← hcut] at hc
    have := List.head?_dropWhile_not isBlank cs
    rw [hc] at this
    simpa using this
  · obtain ⟨hne, rfl⟩ := List.mem_getLast?_eq_getLast hc
    exact Bool.eq_false_iff.2 (List.rdropWhile_last_not isBlank (cs.dropWhile isBlank) hne)
  · rw [List.append_assoc, ← hcut, List.takeWhile_append_dropWhile]

/-- Trimming leaves the one text with no blank at its ends that stands between blanks. -/
theorem trim_eq_iff : trim cs = line ↔
    Tight line ∧ ∃ left right, cs = left ++ line ++ right ∧ Blank left ∧ Blank right := by
  constructor
  · rintro rfl
    exact exists_blanks_of_trim cs
  · rintro ⟨htight, left, right, rfl, hleft, hright⟩
    exact trim_append_blank hleft htight hright

theorem trim_eq_nil_iff : trim cs = [] ↔ Blank cs := by
  refine ⟨fun h => ?_, trim_blank⟩
  obtain ⟨-, left, right, heq, hleft, hright⟩ := trim_eq_iff.1 h
  rw [heq]
  exact (hleft.append blank_nil).append hright

/-- Of two texts in a row, one of which may be blank. -/
theorem trim_append (cs next : List Char) :
    (Blank cs ∧ trim (cs ++ next) = trim next) ∨ (Blank next ∧ trim (cs ++ next) = trim cs) ∨
      (trim cs ≠ [] ∧ trim next ≠ [] ∧ ∃ mid, trim (cs ++ next) = trim cs ++ mid ++ trim next) := by
  obtain ⟨htight, left, right, hcs, hleft, hright⟩ := exists_blanks_of_trim cs
  obtain ⟨htight', left', right', hnext, hleft', hright'⟩ := exists_blanks_of_trim next
  by_cases hblank : trim cs = []
  · rw [trim_eq_nil_iff] at hblank
    refine .inl ⟨hblank, trim_eq_iff.2 ⟨htight', cs ++ left', right', ?_, hblank.append hleft', hright'⟩⟩
    rw [List.append_assoc, List.append_assoc, ← List.append_assoc left', ← hnext]
  by_cases hblank' : trim next = []
  · rw [trim_eq_nil_iff] at hblank'
    refine .inr (.inl ⟨hblank', trim_eq_iff.2 ⟨htight, left, right ++ next, ?_, hleft,
      hright.append hblank'⟩⟩)
    rw [← List.append_assoc, ← hcs]
  · refine .inr (.inr ⟨hblank, hblank', right ++ left', trim_eq_iff.2
      ⟨htight.append htight' hblank hblank' _, left, right', ?_, hleft, hright'⟩⟩)
    conv_lhs => rw [hcs, hnext]
    simp only [List.append_assoc]

end DidAdmission.Text
