-- SUMMARY: Blank characters, trimming, and splitting a text at a separator.

/-!
# Blank characters

A character is blank when it has the Unicode property `White_Space`. Texts are handled as lists of
characters: `trim` removes blanks from both ends and `split` cuts at every separator, so that `n`
separators give `n + 1` pieces.
-/

namespace DidAdmission.Text

/-- The characters with the Unicode property `White_Space`. -/
def isBlank (c : Char) : Bool :=
  let n := c.toNat
  (9 ≤ n && n ≤ 13) || n == 0x20 || n == 0x85 || n == 0xA0 || n == 0x1680
    || (0x2000 ≤ n && n ≤ 0x200A) || n == 0x2028 || n == 0x2029 || n == 0x202F || n == 0x205F
    || n == 0x3000

/-- Removes the characters at both ends that satisfy `p`. -/
def trimBoth (p : Char → Bool) (cs : List Char) : List Char :=
  ((cs.dropWhile p).reverse.dropWhile p).reverse

/-- Removes the blanks at both ends. -/
def trim (cs : List Char) : List Char :=
  trimBoth isBlank cs

/-- The pieces between the characters that satisfy `p`. -/
def splitWhere (p : Char → Bool) : List Char → List (List Char)
  | [] => [[]]
  | c :: cs =>
    if p c then [] :: splitWhere p cs
    else match splitWhere p cs with
      | [] => [[c]]
      | piece :: pieces => (c :: piece) :: pieces

def split (separator : Char) (cs : List Char) : List (List Char) :=
  splitWhere (· == separator) cs

/-- What follows `lead`, when the text starts with it. -/
def dropLead? : (lead : List Char) → List Char → Option (List Char)
  | [], cs => some cs
  | _ :: _, [] => none
  | l :: ls, c :: cs => if l = c then dropLead? ls cs else none

/-- What precedes `tail`, when the text ends with it. -/
def dropTail? (tail : List Char) (cs : List Char) : Option (List Char) :=
  (dropLead? tail.reverse cs.reverse).map List.reverse

/-- Every text has at least one piece. -/
theorem splitWhere_ne_nil (p : Char → Bool) (cs : List Char) : splitWhere p cs ≠ [] := by
  cases cs with
  | nil => simp [splitWhere]
  | cons c cs =>
    simp only [splitWhere]
    split
    · simp
    · split <;> simp

/-- A character is a separator or stands in a piece. -/
theorem mem_splitWhere {p : Char → Bool} {cs : List Char} {c : Char} (h : c ∈ cs) :
    p c = true ∨ ∃ piece ∈ splitWhere p cs, c ∈ piece := by
  induction cs with
  | nil => cases h
  | cons d cs ih =>
    rw [splitWhere]
    by_cases hd : p d = true
    · rw [if_pos hd]
      rcases List.mem_cons.1 h with rfl | h
      · exact .inl hd
      · exact (ih h).imp_right fun ⟨piece, hpiece, hc⟩ => ⟨piece, .tail _ hpiece, hc⟩
    · rw [if_neg hd]
      cases hsplit : splitWhere p cs with
      | nil => exact absurd hsplit (splitWhere_ne_nil p cs)
      | cons first pieces =>
        rcases List.mem_cons.1 h with rfl | h
        · exact .inr ⟨_, .head _, .head _⟩
        · rcases ih h with hc | ⟨piece, hpiece, hc⟩
          · exact .inl hc
          · rw [hsplit] at hpiece
            rcases List.mem_cons.1 hpiece with rfl | hpiece
            · exact .inr ⟨_, .head _, .tail _ hc⟩
            · exact .inr ⟨piece, .tail _ hpiece, hc⟩

/-- The pieces hold no separator. -/
theorem notMem_of_mem_split {separator : Char} {cs piece : List Char}
    (h : piece ∈ split separator cs) : separator ∉ piece := by
  induction cs generalizing piece with
  | nil =>
    obtain rfl := List.mem_singleton.1 h
    exact List.not_mem_nil
  | cons c cs ih =>
    rw [split, splitWhere] at h
    split at h
    · rcases List.mem_cons.1 h with rfl | h
      · exact List.not_mem_nil
      · exact ih h
    · next hc =>
      cases hsplit : splitWhere (· == separator) cs with
      | nil => exact absurd hsplit (splitWhere_ne_nil _ cs)
      | cons first pieces =>
        rw [hsplit] at h
        have hpieces : ∀ piece ∈ first :: pieces, separator ∉ piece := by
          rw [← hsplit]
          exact fun _ => ih
        rcases List.mem_cons.1 h with rfl | h
        · have hne : separator ≠ c := fun heq => hc (beq_iff_eq.2 heq.symm)
          exact List.not_mem_cons_of_ne_of_not_mem hne (hpieces first List.mem_cons_self)
        · exact hpieces piece (List.mem_cons_of_mem _ h)

theorem split_eq_splitOn (separator : Char) (cs : List Char) :
    split separator cs = cs.splitOn separator := by
  induction cs with
  | nil => rfl
  | cons c cs ih =>
    rw [split] at ih ⊢
    rw [List.splitOn] at ih ⊢
    rw [splitWhere, List.splitOnP_cons_eq_if_modifyHead, ← ih]
    split
    · rfl
    · cases hsplit : splitWhere (· == separator) cs with
      | nil => exact absurd hsplit (splitWhere_ne_nil _ cs)
      | cons first pieces => rfl

/-- A text is cut into pieces just if they hold no separator and the text is the pieces with one separator
between any two. -/
theorem split_eq_iff {separator : Char} {cs : List Char} {pieces : List (List Char)} :
    split separator cs = pieces ↔
      pieces ≠ [] ∧ (∀ piece ∈ pieces, separator ∉ piece) ∧ cs = [separator].intercalate pieces := by
  constructor
  · rintro rfl
    refine ⟨splitWhere_ne_nil _ cs, fun piece => notMem_of_mem_split, ?_⟩
    rw [split_eq_splitOn, List.intercalate_splitOn]
  · rintro ⟨hne, hpieces, rfl⟩
    rw [split_eq_splitOn, List.splitOn_intercalate separator hpieces hne]

/-- The first piece is what precedes the first separator. -/
theorem head?_split (separator : Char) (cs : List Char) :
    (split separator cs).head? = some (cs.takeWhile (· != separator)) := by
  induction cs with
  | nil => rfl
  | cons c cs ih =>
    rw [split] at ih ⊢
    rw [splitWhere, List.takeWhile_cons]
    cases hsplit : splitWhere (· == separator) cs with
    | nil => exact absurd hsplit (splitWhere_ne_nil _ cs)
    | cons first pieces =>
      rw [hsplit] at ih
      obtain rfl := Option.some.inj ih
      by_cases hc : c = separator
      · simp [hc]
      · simp [hc]

/-- `dropLead?` finds exactly what follows the lead. -/
theorem dropLead?_eq_some_iff {lead cs rest : List Char} :
    dropLead? lead cs = some rest ↔ cs = lead ++ rest := by
  induction lead generalizing cs with
  | nil => simp [dropLead?]
  | cons l ls ih =>
    cases cs with
    | nil => simp [dropLead?]
    | cons c cs =>
      simp only [dropLead?]
      by_cases h : l = c
      · simp [h, ih]
      · simp [h, Ne.symm h]

/-- `dropTail?` finds exactly what precedes the tail. -/
theorem dropTail?_eq_some_iff {tail cs front : List Char} :
    dropTail? tail cs = some front ↔ cs = front ++ tail := by
  simp only [dropTail?, Option.map_eq_some_iff, dropLead?_eq_some_iff]
  constructor
  · rintro ⟨rest, h, rfl⟩
    have := congrArg List.reverse h
    simpa using this
  · rintro rfl
    exact ⟨front.reverse, by simp, by simp⟩

end DidAdmission.Text
