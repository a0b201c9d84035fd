-- SUMMARY: A value that can be read can be passed over, and both stop at the same place.
import DidAdmission.Fallible
import DidAdmission.Json.Skim
import DidAdmission.Json.Read
import Mathlib.Data.List.DropRight

/-!
# Skimming what can be read

Values are read by recursion and passed over with a list of open frames. `resume` is what is left of
a skim when some part of the text is behind it, so that a recursive reader and the skim can be
compared piece by piece: a piece that a reader accepts is passed over by some turns of the skim
(`Skims` for a value, `Closes` for the rest of an open frame), whatever frames are open around it.
The turns are paid for by characters, so the fuel of a whole skim is enough (`skim_of_readValue`).
-/

namespace DidAdmission.Json

/-! ## Lexemes -/

theorem skipSpace_skipSpace (s : List Char) : skipSpace (skipSpace s) = skipSpace s :=
  List.dropWhile_idempotent _ _

theorem skipSpace_eq_self {s tail : List Char} {c : Char} (h : skipSpace s = c :: tail) :
    skipSpace (c :: tail) = c :: tail := by
  rw [← h, skipSpace_skipSpace]

theorem length_skipSpace_le (s : List Char) : (skipSpace s).length ≤ s.length :=
  (List.dropWhile_sublist _).length_le

theorem length_le_of_skipWord {word s rest : List Char} (h : skipWord word s = .ok rest) :
    rest.length ≤ s.length := by
  induction word generalizing s with
  | nil =>
    cases h
    exact le_rfl
  | cons w word ih =>
    cases s with
    | nil => cases h
    | cons c s =>
      rw [skipWord] at h
      split at h
      · exact (ih h).trans (Nat.le_succ _)
      · cases h

theorem exists_quad_of_hexQuad {s : List Char} {n : Nat} (h : hexQuad s = .ok n) :
    ∃ a b c d tail, s = a :: b :: c :: d :: tail := by
  unfold hexQuad at h
  split at h
  case h_1 a b c d tail => exact ⟨a, b, c, d, tail, rfl⟩
  case h_2 =>
    split at h
    · cases h
    · cases h

theorem exists_low_of_surrogatePair {high : Nat} {s : List Char} {c : Char}
    (h : surrogatePair high s = .ok c) :
    ∃ tail low, s = '\\' :: 'u' :: tail ∧ hexQuad tail = .ok low := by
  unfold surrogatePair at h
  split at h
  case h_3 tail =>
    cases hquad : hexQuad tail with
    | error fault => simp [hquad] at h
    | ok low => exact ⟨tail, low, rfl, hquad⟩
  all_goals cases h

/-- The skim takes a pair of surrogates half by half where the reader takes it at once. -/
theorem skipEscape_of_readEscape {s rest : List Char} {c : Char} {length : Nat}
    (h : readEscape s = .ok (c, length)) (hrest : skipChars length s = .ok rest) :
    ∃ n, skipEscape s = .ok n ∧ skipChars n s = .ok rest := by
  unfold readEscape at h
  split at h
  case h_10 tail =>
    cases hquad : hexQuad tail with
    | error fault => simp [hquad] at h
    | ok n =>
      have hskip : skipEscape ('u' :: tail) = .ok 5 := by simp [skipEscape, hquad, Except.map]
      simp only [hquad] at h
      split at h
      · cases h
      split at h
      · cases hpair : surrogatePair n (tail.drop 4) with
        | error fault => simp [hpair, Except.map] at h
        | ok pair =>
          have hlength : length = 11 := by simp_all [Except.map]
          subst hlength
          obtain ⟨a₁, b₁, c₁, d₁, tail, rfl⟩ := exists_quad_of_hexQuad hquad
          obtain ⟨tail, low, htail, hlow⟩ := exists_low_of_surrogatePair hpair
          obtain ⟨a₂, b₂, c₂, d₂, tail, rfl⟩ := exists_quad_of_hexQuad hlow
          simp only [List.drop_succ_cons, List.drop_zero] at htail
          subst htail
          refine ⟨5, hskip, ?_⟩
          simpa [skipChars, skipEscape, hlow, Except.map] using hrest
      · cases h
        exact ⟨5, hskip, hrest⟩
  case h_1 => cases h
  case h_11 => cases h
  all_goals
    cases h
    exact ⟨1, rfl, hrest⟩

/-- A string that can be read can be passed over. -/
theorem skipChars_of_stringChars {skip : Nat} {s cs rest : List Char}
    (h : stringChars skip s = .ok (cs, rest)) :
    skipChars skip s = .ok rest ∧ rest.length < s.length := by
  induction s generalizing skip cs with
  | nil => cases skip <;> cases h
  | cons c s ih =>
    cases skip with
    | succ skip =>
      rw [stringChars] at h
      obtain ⟨hskip, hlt⟩ := ih h
      exact ⟨hskip, Nat.lt_succ_of_lt hlt⟩
    | zero =>
      rw [stringChars] at h
      rw [skipChars]
      by_cases hquote : c = '"'
      · rw [if_pos hquote] at h ⊢
        cases h
        exact ⟨rfl, Nat.lt_succ_self _⟩
      rw [if_neg hquote] at h ⊢
      by_cases hslash : c = '\\'
      · rw [if_pos hslash] at h ⊢
        cases hescape : readEscape s with
        | error fault => simp [hescape] at h
        | ok found =>
          obtain ⟨e, length⟩ := found
          simp only [hescape, map_eq_ok_iff, Prod.mk.injEq] at h
          obtain ⟨⟨cs, rest⟩, hchars, -, rfl⟩ := h
          obtain ⟨hskip, hlt⟩ := ih hchars
          obtain ⟨n, hn, hrest⟩ := skipEscape_of_readEscape hescape hskip
          rw [hn]
          exact ⟨hrest, Nat.lt_succ_of_lt hlt⟩
      rw [if_neg hslash] at h ⊢
      split at h
      · cases h
      rw [if_neg ‹_›]
      simp only [map_eq_ok_iff, Prod.mk.injEq] at h
      obtain ⟨⟨cs, rest⟩, hchars, -, rfl⟩ := h
      obtain ⟨hskip, hlt⟩ := ih hchars
      exact ⟨hskip, Nat.lt_succ_of_lt hlt⟩

theorem skipString_of_readString {s rest : List Char} {t : String}
    (h : readString s = .ok (t, rest)) : skipString s = .ok rest ∧ rest.length < s.length := by
  simp only [readString, map_eq_ok_iff, Prod.mk.injEq] at h
  obtain ⟨⟨cs, rest⟩, hchars, -, rfl⟩ := h
  exact skipChars_of_stringChars hchars

/-! ## Numbers

All that the reader and the skim differ in is the fault of a text that ends inside a number. -/

section Numbers

variable {atEnd atEnd' : Fault} {s rest : List Char}

theorem takeSomeDigits_eq_ok_iff {digits : List Nat} :
    takeSomeDigits atEnd s = .ok (digits, rest) ↔ takeDigits s = (digits, rest) ∧ digits ≠ [] := by
  unfold takeSomeDigits
  constructor
  · intro h
    split at h
    · cases h
    · cases h
    · next found hnil hcons =>
      simp only [Except.ok.injEq] at h
      refine ⟨h, ?_⟩
      rintro rfl
      cases rest with
      | nil => exact hnil h
      | cons c rest => exact hcons _ _ h
  · rintro ⟨h, hne⟩
    rw [h]
    cases digits with
    | nil => exact absurd rfl hne
    | cons d digits => rfl

theorem length_lt_of_takeDigits {digits : List Nat} (h : takeDigits s = (digits, rest))
    (hne : digits ≠ []) : rest.length < s.length := by
  cases h
  have hsplit := congrArg List.length (List.takeWhile_append_dropWhile (p := Char.isDigit) (l := s))
  have hpos : 0 < (s.takeWhile Char.isDigit).length :=
    List.length_pos_of_ne_nil fun h => hne (by rw [h]; rfl)
  rw [List.length_append] at hsplit
  omega

theorem scanWhole_congr {digits : List Nat} (h : scanWhole atEnd s = .ok (digits, rest)) :
    scanWhole atEnd' s = .ok (digits, rest) ∧ rest.length < s.length := by
  unfold scanWhole at h ⊢
  split at h
  · split at h
    · split at h
      · cases h
      · cases h
        exact ⟨if_neg ‹_›, Nat.lt_succ_self _⟩
    · cases h
      exact ⟨rfl, Nat.lt_succ_self _⟩
  · obtain ⟨hdigits, hne⟩ := takeSomeDigits_eq_ok_iff.1 h
    exact ⟨takeSomeDigits_eq_ok_iff.2 ⟨hdigits, hne⟩, length_lt_of_takeDigits hdigits hne⟩

theorem scanFraction_congr {digits : Option (List Nat)}
    (h : scanFraction atEnd s = .ok (digits, rest)) :
    scanFraction atEnd' s = .ok (digits, rest) ∧ rest.length ≤ s.length := by
  unfold scanFraction at h ⊢
  split at h
  · simp only [map_eq_ok_iff, Prod.mk.injEq] at h
    obtain ⟨⟨ds, rest⟩, hsome, rfl, rfl⟩ := h
    obtain ⟨hdigits, hne⟩ := takeSomeDigits_eq_ok_iff.1 hsome
    refine ⟨map_eq_ok_iff.2 ⟨_, takeSomeDigits_eq_ok_iff.2 ⟨hdigits, hne⟩, rfl⟩, ?_⟩
    exact (length_lt_of_takeDigits hdigits hne).le.trans (Nat.le_succ _)
  · cases h
    exact ⟨rfl, le_rfl⟩

theorem scanExponent_congr {digits : Option (Bool × List Nat)}
    (h : scanExponent atEnd s = .ok (digits, rest)) :
    scanExponent atEnd' s = .ok (digits, rest) ∧ rest.length ≤ s.length := by
  unfold scanExponent at h ⊢
  split at h
  · split at h
    · rw [if_pos ‹_›]
      simp only [map_eq_ok_iff, Prod.mk.injEq] at h
      obtain ⟨⟨ds, rest⟩, hsome, rfl, rfl⟩ := h
      obtain ⟨hdigits, hne⟩ := takeSomeDigits_eq_ok_iff.1 hsome
      refine ⟨map_eq_ok_iff.2 ⟨_, takeSomeDigits_eq_ok_iff.2 ⟨hdigits, hne⟩, rfl⟩, ?_⟩
      refine (length_lt_of_takeDigits hdigits hne).le.trans ?_
      split
      all_goals
        simp only [List.length_cons]
        omega
    · rw [if_neg ‹_›]
      cases h
      exact ⟨rfl, le_rfl⟩
  · cases h
    exact ⟨rfl, le_rfl⟩

/-- A number that can be read can be passed over. -/
theorem scanNumber_congr {negative : Bool} {numeral : NumeralText}
    (h : scanNumber atEnd negative s = .ok (numeral, rest)) :
    scanNumber atEnd' negative s = .ok (numeral, rest) ∧ rest.length < s.length := by
  simp only [scanNumber, bind_eq_ok_iff, Prod.exists] at h ⊢
  obtain ⟨whole, s₁, hwhole, fraction, s₂, hfraction, exponent, s₃, hexponent, hnumeral⟩ := h
  obtain ⟨hwhole, h₁⟩ := scanWhole_congr hwhole
  obtain ⟨hfraction, h₂⟩ := scanFraction_congr hfraction
  obtain ⟨hexponent, h₃⟩ := scanExponent_congr hexponent
  cases hnumeral
  exact ⟨⟨whole, s₁, hwhole, fraction, s₂, hfraction, exponent, _, hexponent, rfl⟩, by omega⟩

theorem scanNumber_of_readNumber {negative : Bool} {n : Number}
    (h : readNumber negative s = .ok (n, rest)) :
    ∃ numeral, scanNumber .endInValue negative s = .ok (numeral, rest) := by
  simp only [readNumber, bind_eq_ok_iff, Prod.exists] at h
  obtain ⟨numeral, s₁, hscan, hvalue⟩ := h
  split at hvalue
  · cases hvalue
    exact ⟨numeral, hscan⟩
  · cases hvalue

end Numbers

/-- A value other than an array or an object, if it can be read, can be passed over. -/
theorem skimScalar_of_readValueWith {nested : Option (Reader Json)} {s tail rest : List Char}
    {c : Char} {v : Json} (hs : skipSpace s = c :: tail) (hlist : c ≠ '[') (hobject : c ≠ '{')
    (h : readValueWith nested s = .ok (v, rest)) :
    skimScalar (c :: tail) = .ok rest ∧ rest.length < (c :: tail).length := by
  simp only [readValueWith, hs, if_neg hlist, if_neg hobject] at h
  rw [skimScalar]
  split_ifs at h ⊢ with hn ht hf hminus hdigit hquote
  case pos | pos | pos =>
    simp only [map_eq_ok_iff, Prod.mk.injEq] at h
    obtain ⟨rest, hword, -, rfl⟩ := h
    exact ⟨hword, Nat.lt_succ_of_le (length_le_of_skipWord hword)⟩
  case pos | pos =>
    simp only [map_eq_ok_iff, Prod.mk.injEq] at h
    obtain ⟨⟨n, rest⟩, hnumber, -, rfl⟩ := h
    obtain ⟨numeral, hscan⟩ := scanNumber_of_readNumber hnumber
    obtain ⟨hscan, hlt⟩ := scanNumber_congr hscan
    exact ⟨map_eq_ok_iff.2 ⟨_, hscan, rfl⟩, by simp only [List.length_cons] at hlt ⊢; omega⟩
  case pos =>
    simp only [map_eq_ok_iff, Prod.mk.injEq] at h
    obtain ⟨⟨t, rest⟩, hstring, -, rfl⟩ := h
    obtain ⟨hskip, hlt⟩ := skipString_of_readString hstring
    exact ⟨hskip, Nat.lt_succ_of_lt hlt⟩

/-! ## Open frames -/

/-- What is left of a skim with some frames open: to close as many as it can, and to pass over the
values that remain. -/
def resume (afterValue : Bool) (frames : List Frame) (fuel : Nat) (s : List Char) :
    Except Fault (List Char) := do
  let (frames, rest) ← unwind afterValue frames s
  match frames with
  | [] => .ok rest
  | _ => skimWithin fuel frames rest

theorem resume_nil (afterValue : Bool) (fuel : Nat) (s : List Char) :
    resume afterValue [] fuel s = .ok s := rfl

theorem skimWithin_succ (fuel : Nat) (frames : List Frame) (s : List Char) :
    skimWithin (fuel + 1) frames s =
      match skipSpace s with
      | [] => .error .endInValue
      | c :: rest =>
        if c = '[' then resume false (.list :: frames) fuel rest
        else if c = '{' then resume false (.object :: frames) fuel rest
        else skimScalar (c :: rest) >>= resume true frames fuel := by
  rw [skimWithin]
  cases skipSpace s with
  | nil => rfl
  | cons c rest =>
    simp only
    split_ifs
    all_goals rfl

/-- Blanks before a value do not matter to a skim. -/
theorem skimWithin_skipSpace (fuel : Nat) (frames : List Frame) (s : List Char) :
    skimWithin fuel frames (skipSpace s) = skimWithin fuel frames s := by
  cases fuel with
  | zero => rfl
  | succ fuel => rw [skimWithin_succ, skimWithin_succ, skipSpace_skipSpace]

/-- Some turns of a skim pass over the value at the start of a text, whatever is open around it. -/
def Skims (s rest : List Char) : Prop :=
  ∃ turns, turns + rest.length ≤ s.length ∧
    ∀ fuel frames, skimWithin (fuel + turns) frames s = resume true frames fuel rest

/-- Some turns of a skim pass over the rest of an open frame up to its bracket, whatever is open
around it. -/
def Closes (frame : Frame) (afterValue : Bool) (s rest : List Char) : Prop :=
  ∃ turns, turns + rest.length < s.length ∧
    ∀ fuel frames,
      resume afterValue (frame :: frames) (fuel + turns) s = resume true frames fuel rest

/-- The reader passes over what the skim passes over. -/
def Skimmed {α : Type} (r : Reader α) : Prop :=
  ∀ ⦃s rest v⦄, r s = .ok (v, rest) → Skims s rest

theorem Closes.skims {frame : Frame} {s tail rest : List Char} {c : Char}
    (hs : skipSpace s = c :: tail) (hc : (c = '[' ∧ frame = .list) ∨ (c = '{' ∧ frame = .object))
    (h : Closes frame false tail rest) : Skims s rest := by
  obtain ⟨turns, hlt, hresume⟩ := h
  have hle := length_skipSpace_le s
  rw [hs, List.length_cons] at hle
  refine ⟨turns + 1, by omega, fun fuel frames => ?_⟩
  rw [← Nat.add_assoc, skimWithin_succ, hs]
  rcases hc with ⟨rfl, rfl⟩ | ⟨rfl, rfl⟩
  · exact hresume fuel frames
  · exact hresume fuel frames

/-! ## Arrays -/

theorem exists_bracket_of_nextItem {first : Bool} {s : List Char} (h : nextItem first s = .ok none) :
    ∃ tail, skipSpace s = ']' :: tail := by
  unfold nextItem at h
  split at h
  · cases h
  · next c tail hs =>
    split_ifs at h with hc
    · exact ⟨tail, hc ▸ hs⟩
    · cases h
    · split at h <;> cases h

/-- Before its first item an array has nothing but blanks, before any other a comma. -/
theorem item_of_nextItem {first : Bool} {s item : List Char} (h : nextItem first s = .ok (some item)) :
    (first = true ∧ skipSpace s = item ∧ ∃ c tail, item = c :: tail ∧ c ≠ ']') ∨
      (first = false ∧ ∃ tail, skipSpace s = ',' :: tail ∧ item = skipSpace tail) := by
  unfold nextItem at h
  split at h
  · cases h
  · next c tail hs =>
    split_ifs at h with hc hfirst hcomma
    · cases h
    · cases h
      exact .inl ⟨hfirst, hs, c, tail, rfl, hc⟩
    · subst hcomma
      split at h
      · cases h
      · cases h
        exact .inr ⟨by simpa using hfirst, tail, hs, rfl⟩

theorem length_le_of_nextItem {first : Bool} {s item : List Char}
    (h : nextItem first s = .ok (some item)) : item.length ≤ s.length := by
  have hle := length_skipSpace_le s
  rcases item_of_nextItem h with ⟨-, hs, -⟩ | ⟨-, tail, hs, rfl⟩
  · rwa [hs] at hle
  · rw [hs, List.length_cons] at hle
    exact (length_skipSpace_le tail).trans (by omega)

theorem resume_list_close {first : Bool} {frames : List Frame} {fuel : Nat} {s rest : List Char}
    (hs : skipSpace s = ']' :: rest) :
    resume (!first) (.list :: frames) fuel s = resume true frames fuel rest := by
  simp [resume, unwind, hs, Frame.closer]

theorem resume_list_next {first : Bool} {frames : List Frame} {fuel : Nat} {s item : List Char}
    (hnext : nextItem first s = .ok (some item)) :
    resume (!first) (.list :: frames) fuel s = skimWithin fuel (.list :: frames) item := by
  rcases item_of_nextItem hnext with ⟨rfl, hs, c, tail, rfl, hc⟩ | ⟨rfl, tail, hs, rfl⟩
  · simp [resume, unwind, hs, Frame.closer, Frame.skipKey, hc, Except.map]
  · rw [skimWithin_skipSpace]
    simp [resume, unwind, hs, Frame.skipKey, Except.map]

/-- The rest of an array is passed over item by item. -/
theorem closes_of_foldItems {σ : Type} {step : σ → List Char → Except Fault (σ × List Char)}
    (hstep : ∀ ⦃state s found rest⦄, step state s = .ok (found, rest) → Skims s rest)
    {count : Nat} {first : Bool} {state found : σ} {s rest : List Char}
    (h : foldItems id step count first state s = .ok (found, rest)) :
    Closes .list (!first) s rest := by
  induction count generalizing first state s with
  | zero => cases h
  | succ count ih =>
    -- The turns for the item come first, then those for the rest of the array.
    rw [foldItems] at h
    split at h
    · cases h
    · next hnext =>
      split at h
      · cases h
      · next hclose =>
        cases h
        obtain ⟨tail, hs⟩ := exists_bracket_of_nextItem hnext
        obtain rfl : tail = rest := by simpa [closeArray, hs] using hclose
        have hle := length_skipSpace_le s
        rw [hs, List.length_cons] at hle
        exact ⟨0, by omega, fun fuel frames => resume_list_close hs⟩
    · next item hnext =>
      split at h
      · cases h
      · next hitem =>
        obtain ⟨turns, hle, hskim⟩ := hstep hitem
        obtain ⟨later, hlt, hresume⟩ := ih h
        have hlength := length_le_of_nextItem hnext
        refine ⟨later + turns, by omega, fun fuel frames => ?_⟩
        rw [resume_list_next hnext, ← Nat.add_assoc, hskim]
        exact hresume fuel frames

/-! ## Objects -/

theorem exists_brace_of_nextMember {first : Bool} {s : List Char}
    (h : nextMember first s = .ok none) : ∃ tail, skipSpace s = '}' :: tail := by
  unfold nextMember at h
  split at h
  · cases h
  · next tail hs => exact ⟨tail, hs⟩
  · split_ifs at h
    · cases h
    · split at h <;> cases h

/-- Before the first key of an object stands nothing but blanks, before any other a comma. -/
theorem quoted_of_nextMember {first : Bool} {s quoted : List Char}
    (h : nextMember first s = .ok (some quoted)) :
    (first = true ∧ skipSpace s = '"' :: quoted) ∨
      (first = false ∧ ∃ tail, skipSpace s = ',' :: tail ∧ skipSpace tail = '"' :: quoted) := by
  unfold nextMember at h
  split at h
  · cases h
  · cases h
  · next c tail _ hs =>
    split_ifs at h with hfirst hquote hcomma
    · cases h
      exact .inl ⟨hfirst, hquote ▸ hs⟩
    · split at h
      case h_2 key hkey =>
        cases h
        exact .inr ⟨by simpa using hfirst, tail, hcomma ▸ hs, hkey⟩
      all_goals cases h

theorem length_lt_of_skipColon {s rest : List Char} (h : skipColon s = .ok rest) :
    rest.length < s.length := by
  have hle := length_skipSpace_le s
  unfold skipColon at h
  split at h
  case h_2 tail hs =>
    cases h
    rw [hs, List.length_cons] at hle
    omega
  all_goals cases h

theorem length_le_of_nextMember {first : Bool} {s quoted : List Char}
    (h : nextMember first s = .ok (some quoted)) : quoted.length ≤ s.length := by
  have hle := length_skipSpace_le s
  rcases quoted_of_nextMember h with ⟨-, hs⟩ | ⟨-, tail, hs, htail⟩
  · rw [hs, List.length_cons] at hle
    omega
  · have hle' := length_skipSpace_le tail
    rw [hs, List.length_cons] at hle
    rw [htail, List.length_cons] at hle'
    omega

theorem resume_object_close {first : Bool} {frames : List Frame} {fuel : Nat} {s rest : List Char}
    (hs : skipSpace s = '}' :: rest) :
    resume (!first) (.object :: frames) fuel s = resume true frames fuel rest := by
  simp [resume, unwind, hs, Frame.closer]

theorem resume_object_next {first : Bool} {frames : List Frame} {fuel : Nat}
    {s quoted rest value : List Char} (hnext : nextMember first s = .ok (some quoted))
    (hkey : skipString quoted = .ok rest) (hcolon : skipColon rest = .ok value) :
    resume (!first) (.object :: frames) fuel s = skimWithin fuel (.object :: frames) value := by
  rcases quoted_of_nextMember hnext with ⟨rfl, hs⟩ | ⟨rfl, tail, hs, htail⟩
  · have hquote := skipSpace_eq_self hs
    simp [resume, unwind, hs, hquote, hkey, hcolon, Frame.closer, Frame.skipKey, Except.map]
  · simp [resume, unwind, hs, htail, hkey, hcolon, Frame.skipKey, Except.map]

/-- The rest of an object is passed over member by member. -/
theorem closes_of_foldMembers {σ ε : Type} {lift : Fault → ε}
    {step : σ → String → List Char → Except ε (σ × List Char)}
    (hstep : ∀ ⦃state key s found rest⦄, step state key s = .ok (found, rest) →
      ∃ value, skipColon s = .ok value ∧ Skims value rest)
    {count : Nat} {first : Bool} {state found : σ} {s rest : List Char}
    (h : foldMembers lift step count first state s = .ok (found, rest)) :
    Closes .object (!first) s rest := by
  induction count generalizing first state s with
  | zero => cases h
  | succ count ih =>
    rw [foldMembers] at h
    split at h
    · cases h
    · next hnext =>
      cases h
      obtain ⟨tail, hs⟩ := exists_brace_of_nextMember hnext
      have hle := length_skipSpace_le s
      rw [hs, List.length_cons] at hle
      rw [hs, List.drop_succ_cons, List.drop_zero]
      exact ⟨0, by omega, fun fuel frames => resume_object_close hs⟩
    · next quoted hnext =>
      split at h
      · cases h
      · next hkey =>
        split at h
        · cases h
        · next hmember =>
          obtain ⟨value, hcolon, turns, hle, hskim⟩ := hstep hmember
          obtain ⟨later, hlt, hresume⟩ := ih h
          obtain ⟨hskip, hshort⟩ := skipString_of_readString hkey
          have hquoted := length_le_of_nextMember hnext
          have hvalue := length_lt_of_skipColon hcolon
          refine ⟨later + turns, by omega, fun fuel frames => ?_⟩
          rw [resume_object_next hnext hskip hcolon, ← Nat.add_assoc, hskim]
          exact hresume fuel frames

/-! ## Values -/

theorem skimmed_readValueWith {nested : Option (Reader Json)} (hnested : ∀ r ∈ nested, Skimmed r) :
    Skimmed (readValueWith nested) := by
  intro s rest v h
  cases hs : skipSpace s with
  | nil => simp [readValueWith, hs] at h
  | cons c tail =>
    by_cases hlist : c = '['
    · subst hlist
      cases nested with
      | none => simp [readValueWith, hs] at h
      | some item =>
        replace h : readArray item tail = .ok (v, rest) := by simpa [readValueWith, hs] using h
        simp only [readArray, bind_eq_ok_iff, Prod.exists] at h
        obtain ⟨items, rest', hitems, hv⟩ := h
        cases hv
        refine Closes.skims hs (.inl ⟨rfl, rfl⟩) (closes_of_foldItems ?_ hitems)
        intro items s found rest hitem
        obtain ⟨⟨v, rest'⟩, hv, hfound⟩ := map_eq_ok_iff.1 hitem
        cases hfound
        exact hnested item rfl hv
    by_cases hobject : c = '{'
    · subst hobject
      cases nested with
      | none => simp [readValueWith, hs] at h
      | some value =>
        replace h : readObject value tail = .ok (v, rest) := by simpa [readValueWith, hs] using h
        simp only [readObject, bind_eq_ok_iff, Prod.exists] at h
        obtain ⟨members, rest', hmembers, hv⟩ := h
        cases hv
        refine Closes.skims hs (.inr ⟨rfl, rfl⟩) (closes_of_foldMembers ?_ hmembers)
        intro members key s found rest hmember
        simp only [readMember, bind_eq_ok_iff, Prod.exists] at hmember
        obtain ⟨value, hcolon, v, rest', hv, hfound⟩ := hmember
        cases hfound
        exact ⟨value, hcolon, hnested _ rfl hv⟩
    -- Any other value is passed over in one turn.
    obtain ⟨hscalar, hlt⟩ := skimScalar_of_readValueWith hs hlist hobject h
    have hle := length_skipSpace_le s
    rw [hs] at hle
    refine ⟨1, by omega, fun fuel frames => ?_⟩
    rw [skimWithin_succ, hs]
    simp [hlist, hobject, hscalar]

theorem skimmed_readValue (depth : Nat) : Skimmed (readValue depth) := by
  induction depth with
  | zero => exact skimmed_readValueWith nofun
  | succ depth ih =>
    refine skimmed_readValueWith fun r hr => ?_
    cases hr
    exact ih

theorem skim_of_skims {s rest : List Char} (h : Skims s rest) : skim s = .ok rest := by
  obtain ⟨turns, hle, hskim⟩ := h
  have hfuel : s.length + 1 = (s.length + 1 - turns) + turns := by omega
  rw [skim, hfuel, hskim, resume_nil]

/-- A value that can be read can be passed over, up to the same place. -/
theorem skim_of_readValue {depth : Nat} {s rest : List Char} {v : Json}
    (h : readValue depth s = .ok (v, rest)) : skim s = .ok rest :=
  skim_of_skims (skimmed_readValue depth h)

end DidAdmission.Json
