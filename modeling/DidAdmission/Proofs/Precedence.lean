-- SUMMARY: The first item of a list that fails, and computations that fail with what it reports.
import DidAdmission.Fallible

/-!
# Precedence

Checks run one after another, and the first one that fails is reported. `FirstWith` is the first item
of a list with a property, `Earliest` what the first item that fails reports, and `Reports` says
that a computation fails with just that. Of two computations that report, the one after the other
reports the two lists one after the other.
-/

namespace DidAdmission

/-! ## The first item -/

section First

variable {α β : Type} {p : α → Prop}

/-- The item is the first one of the list with the property. -/
def FirstWith (p : α → Prop) (xs : List α) (x : α) : Prop :=
  ∃ earlier later, xs = earlier ++ x :: later ∧ (∀ y ∈ earlier, ¬ p y) ∧ p x

theorem firstWith_cons {xs : List α} {x y : α} :
    FirstWith p (x :: xs) y ↔ (p x ∧ x = y) ∨ (¬ p x ∧ FirstWith p xs y) := by
  constructor
  · rintro ⟨earlier, later, hsplit, hearlier, hy⟩
    rcases List.cons_eq_append_iff.1 hsplit with ⟨rfl, hcons⟩ | ⟨rest, rfl, hrest⟩
    · obtain ⟨rfl, -⟩ := List.cons.inj hcons
      exact .inl ⟨hy, rfl⟩
    · obtain ⟨hx, hearlier⟩ := List.forall_mem_cons.1 hearlier
      exact .inr ⟨hx, rest, later, hrest, hearlier, hy⟩
  · rintro (⟨hx, rfl⟩ | ⟨hx, earlier, later, rfl, hearlier, hy⟩)
    · exact ⟨[], xs, rfl, nofun, hx⟩
    · exact ⟨x :: earlier, later, rfl, List.forall_mem_cons.2 ⟨hx, hearlier⟩, hy⟩

theorem FirstWith.mem {xs : List α} {x : α} (h : FirstWith p xs x) : x ∈ xs := by
  obtain ⟨earlier, later, rfl, -⟩ := h
  simp

theorem FirstWith.holds {xs : List α} {x : α} (h : FirstWith p xs x) : p x := by
  obtain ⟨-, -, -, -, hx⟩ := h
  exact hx

theorem firstWith_congr {q : α → Prop} {xs : List α} {x : α} (h : ∀ y ∈ xs, (p y ↔ q y)) :
    FirstWith p xs x ↔ FirstWith q xs x := by
  induction xs with
  | nil => simp [FirstWith]
  | cons y ys ih =>
    obtain ⟨hy, hys⟩ := List.forall_mem_cons.1 h
    rw [firstWith_cons, firstWith_cons, hy, ih hys]

theorem firstWith_map {q : β → Prop} {f : α → β} {xs : List α} {y : β} :
    FirstWith q (xs.map f) y ↔ ∃ x, FirstWith (fun x => q (f x)) xs x ∧ f x = y := by
  induction xs with
  | nil => simp [FirstWith]
  | cons x xs ih =>
    simp only [List.map_cons, firstWith_cons, ih]
    constructor
    · rintro (⟨hx, rfl⟩ | ⟨hx, x', hfirst, rfl⟩)
      · exact ⟨x, .inl ⟨hx, rfl⟩, rfl⟩
      · exact ⟨x', .inr ⟨hx, hfirst⟩, rfl⟩
    · rintro ⟨x', ⟨hx, rfl⟩ | ⟨hx, hfirst⟩, rfl⟩
      · exact .inl ⟨hx, rfl⟩
      · exact .inr ⟨hx, x', hfirst, rfl⟩

/-- A search finds the first item with the property. -/
theorem find?_eq_some_iff_firstWith {search : α → Bool} {xs : List α} {x : α} :
    xs.find? search = some x ↔ FirstWith (search · = true) xs x := by
  rw [List.find?_eq_some_iff_append]
  constructor
  · rintro ⟨hx, earlier, later, hsplit, hearlier⟩
    exact ⟨earlier, later, hsplit, by simpa using hearlier, hx⟩
  · rintro ⟨earlier, later, hsplit, hearlier, hx⟩
    exact ⟨hx, earlier, later, hsplit, by simpa using hearlier⟩

end First

/-! ## The earliest failure -/

section Earliest

variable {ι ε α β : Type} {fails : ι → ε → Prop}

/-- The first item that fails reports the error. -/
def Earliest (fails : ι → ε → Prop) (xs : List ι) (e : ε) : Prop :=
  ∃ x, FirstWith (fun x => ∃ e, fails x e) xs x ∧ fails x e

theorem earliest_nil {e : ε} : ¬ Earliest fails [] e := by
  rintro ⟨x, hfirst, -⟩
  cases hfirst.mem

theorem earliest_cons {x : ι} {xs : List ι} {e : ε} :
    Earliest fails (x :: xs) e ↔ fails x e ∨ ((∀ e', ¬ fails x e') ∧ Earliest fails xs e) := by
  simp only [Earliest, firstWith_cons]
  constructor
  · rintro ⟨y, ⟨-, rfl⟩ | ⟨hx, hfirst⟩, hy⟩
    · exact .inl hy
    · exact .inr ⟨not_exists.1 hx, y, hfirst, hy⟩
  · rintro (hx | ⟨hx, y, hfirst, hy⟩)
    · exact ⟨x, .inl ⟨⟨e, hx⟩, rfl⟩, hx⟩
    · exact ⟨y, .inr ⟨not_exists.2 hx, hfirst⟩, hy⟩

theorem earliest_append {xs ys : List ι} {e : ε} :
    Earliest fails (xs ++ ys) e ↔
      Earliest fails xs e ∨ ((∀ x ∈ xs, ∀ e', ¬ fails x e') ∧ Earliest fails ys e) := by
  induction xs with
  | nil => simp [earliest_nil]
  | cons x xs ih =>
    simp only [List.cons_append, earliest_cons, ih, List.forall_mem_cons]
    constructor
    · rintro (hx | ⟨hx, hxs | ⟨hxs, hys⟩⟩)
      · exact .inl (.inl hx)
      · exact .inl (.inr ⟨hx, hxs⟩)
      · exact .inr ⟨⟨hx, hxs⟩, hys⟩
    · rintro ((hx | ⟨hx, hxs⟩) | ⟨⟨hx, hxs⟩, hys⟩)
      · exact .inl hx
      · exact .inr ⟨hx, .inl hxs⟩
      · exact .inr ⟨hx, .inr ⟨hxs, hys⟩⟩

/-- If no item reports an error, no item fails. -/
theorem not_fails_of_not_earliest {xs : List ι} (h : ∀ e, ¬ Earliest fails xs e) :
    ∀ x ∈ xs, ∀ e, ¬ fails x e := by
  induction xs with
  | nil => nofun
  | cons x xs ih =>
    simp only [earliest_cons, not_or, not_and] at h
    have hx : ∀ e, ¬ fails x e := fun e => (h e).1
    exact List.forall_mem_cons.2 ⟨hx, ih fun e => (h e).2 hx⟩

/-- Where every item with the property fails with its own report, the first such item is reported. -/
theorem earliest_iff_firstWith {p : ι → Prop} {report : ι → ε} {xs : List ι}
    (h : ∀ x e, fails x e ↔ p x ∧ report x = e) {e : ε} :
    Earliest fails xs e ↔ ∃ x, FirstWith p xs x ∧ report x = e := by
  simp only [Earliest, h, exists_and_left, exists_eq', and_true]
  exact exists_congr fun x => and_congr_right fun hfirst => and_iff_right (FirstWith.holds hfirst)

/-! ## Computations that report it -/

/-- The computation fails with what the first failing item reports, and only so. -/
def Reports (fails : ι → ε → Prop) (xs : List ι) (x : Except ε α) : Prop :=
  ∀ e, x = .error e ↔ Earliest fails xs e

theorem Reports.not_fails {xs : List ι} {x : Except ε α} {a : α} (h : Reports fails xs x)
    (hx : x = .ok a) : ∀ i ∈ xs, ∀ e, ¬ fails i e := by
  refine not_fails_of_not_earliest fun e he => ?_
  rw [(h e).2 he] at hx
  cases hx

theorem Reports.ok (a : α) : Reports fails [] (.ok a : Except ε α) := by
  intro e
  simp [earliest_nil]

theorem Reports.append {xs ys : List ι} {x : Except ε α} {f : α → Except ε β}
    (hx : Reports fails xs x) (hf : ∀ a, x = .ok a → Reports fails ys (f a)) :
    Reports fails (xs ++ ys) (x >>= f) := by
  intro e
  rw [bind_eq_error_iff, earliest_append, hx e]
  refine or_congr_right ⟨?_, ?_⟩
  · rintro ⟨a, ha, hfa⟩
    exact ⟨hx.not_fails ha, (hf a ha e).1 hfa⟩
  · rintro ⟨hpass, he⟩
    cases hxa : x with
    | error e' =>
      obtain ⟨i, hfirst, hi⟩ := (hx e').1 hxa
      exact absurd hi (hpass i hfirst.mem e')
    | ok a => exact ⟨a, rfl, (hf a hxa e).2 he⟩

theorem Reports.of_iff {i : ι} {x : Except ε α} (h : ∀ e, x = .error e ↔ fails i e) :
    Reports fails [i] x := by
  intro e
  rw [h e, earliest_cons]
  simp [earliest_nil]

/-- A check comes before those that follow it. -/
theorem Reports.cons {i : ι} {is : List ι} {x : Except ε α} {f : α → Except ε β}
    (hx : ∀ e, x = .error e ↔ fails i e) (hf : ∀ a, x = .ok a → Reports fails is (f a)) :
    Reports fails (i :: is) (x >>= f) :=
  (Reports.of_iff hx).append hf

/-- A list is read up to the first bad entry. -/
theorem mapM_reports (f : α → Except ε β) (xs : List α) :
    Reports (fun x e => f x = .error e) xs (xs.mapM f) := by
  induction xs with
  | nil => exact .ok []
  | cons x xs ih =>
    rw [List.mapM_cons]
    refine .cons (fun _ => .rfl) fun b _ => ?_
    have hrest := ih.append fun bs _ => Reports.ok (b :: bs)
    rwa [List.append_nil] at hrest

end Earliest

end DidAdmission
