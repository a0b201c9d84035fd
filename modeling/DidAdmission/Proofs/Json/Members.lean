-- SUMMARY: The members of an object as they are written in a text, and as they stand in its value.
import DidAdmission.Fallible
import DidAdmission.Json.Read
import Mathlib.Data.String.Basic
import Mathlib.Data.List.Nodup

/-!
# Members

The members of an object are read in the order in which they are written (`membersWritten`) and put
into the order of their keys. A key of the value stands there once (`Object.Sorted`), and a key that
is written at most once has the value it is written with (`get?_ofMembers`).
-/

namespace DidAdmission.Json

/-! ## Objects -/

namespace Object

variable {object : Object} {key : String} {value : Json}

/-- The keys ascend. -/
def Sorted (object : Object) : Prop :=
  object.keys.Pairwise (· < ·)

theorem mem_keys_insert {name : String} (h : name ∈ (object.insert key value).keys) :
    name = key ∨ name ∈ object.keys := by
  induction object with
  | nil => exact .inl (List.mem_singleton.1 h)
  | cons m object ih =>
    obtain ⟨k, v⟩ := m
    simp only [insert, keys, List.map_cons, List.mem_cons] at h ih ⊢
    split_ifs at h with hlt heq
    · simpa using h
    · subst heq
      exact .inr (by simpa using h)
    · simp only [List.map_cons, List.mem_cons] at h
      rcases h with rfl | h
      · exact .inr (.inl rfl)
      · exact (ih h).imp_right .inr

theorem Sorted.insert (h : Sorted object) : Sorted (object.insert key value) := by
  induction object with
  | nil => exact List.pairwise_singleton _ _
  | cons m object ih =>
    obtain ⟨k, v⟩ := m
    simp only [Sorted, keys, List.map_cons, List.pairwise_cons, Object.insert] at h ih ⊢
    obtain ⟨hk, htail⟩ := h
    split_ifs with hlt heq
    · refine List.pairwise_cons.2 ⟨?_, List.pairwise_cons.2 ⟨hk, htail⟩⟩
      intro name hname
      rcases List.mem_cons.1 hname with rfl | hname
      · exact hlt
      · exact hlt.trans (hk name hname)
    · subst heq
      exact List.pairwise_cons.2 ⟨hk, htail⟩
    · refine List.pairwise_cons.2 ⟨fun name hname => ?_, ih htail⟩
      rcases mem_keys_insert hname with rfl | hname
      · exact lt_of_le_of_ne (not_lt.1 hlt) (Ne.symm heq)
      · exact hk name hname

theorem sorted_ofMembers (members : List (String × Json)) : Sorted (ofMembers members) := by
  suffices h : ∀ object, Sorted object →
      Sorted (members.foldl (fun object m => object.insert m.1 m.2) object) from
    h [] List.Pairwise.nil
  induction members with
  | nil => exact fun _ h => h
  | cons m members ih => exact fun object h => ih _ h.insert

theorem Sorted.count_keys_le_one (h : Sorted object) (name : String) : object.keys.count name ≤ 1 :=
  List.nodup_iff_count_le_one.1 (h.imp ne_of_lt) name

@[simp] theorem get?_nil (name : String) : get? [] name = none := rfl

theorem get?_cons (k : String) (v : Json) (object : Object) (name : String) :
    get? ((k, v) :: object) name = if name = k then some v else object.get? name := by
  rw [get?, List.lookup_cons]
  by_cases h : name = k
  · simp [h]
  · simp [h, get?, beq_false_of_ne h]

theorem get?_insert (object : Object) (key : String) (value : Json) (name : String) :
    (object.insert key value).get? name = if name = key then some value else object.get? name := by
  induction object with
  | nil => exact get?_cons _ _ _ _
  | cons m object ih =>
    obtain ⟨k, v⟩ := m
    rw [insert]
    split_ifs with hlt heq hname hname hname
    all_goals simp_all [get?_cons]

theorem get?_eq_none (h : object.keys.count key = 0) : object.get? key = none := by
  rw [get?, List.lookup_eq_none_iff]
  intro m hm
  have hne : key ≠ m.1 := fun heq =>
    List.count_eq_zero.1 h (heq ▸ List.mem_map_of_mem hm)
  exact bne_iff_ne.2 hne

theorem get?_foldl_insert {members : List (String × Json)} {name : String}
    (honce : (keys members).count name ≤ 1) (object : Object) :
    (members.foldl (fun object m => object.insert m.1 m.2) object).get? name =
      (get? members name).or (object.get? name) := by
  induction members generalizing object with
  | nil => rfl
  | cons m members ih =>
    obtain ⟨k, v⟩ := m
    simp only [keys, List.map_cons, List.count_cons] at honce
    rw [List.foldl_cons, ih (by rw [keys]; omega), get?_insert, get?_cons]
    by_cases hname : name = k
    · subst hname
      simp only [beq_self_eq_true, if_true] at honce ⊢
      rw [get?_eq_none (by rw [keys]; omega)]
      rfl
    · rw [if_neg hname, if_neg hname]

/-- A member that is written at most once has the value it is written with. -/
theorem get?_ofMembers {members : List (String × Json)} {name : String}
    (honce : (keys members).count name ≤ 1) : (ofMembers members).get? name = get? members name := by
  rw [ofMembers, get?_foldl_insert honce, get?_nil, Option.or_none]

theorem perm_insert (h : key ∉ object.keys) :
    (object.insert key value).Perm ((key, value) :: object) := by
  induction object with
  | nil => exact .rfl
  | cons m object ih =>
    obtain ⟨k, v⟩ := m
    simp only [keys, List.map_cons, List.mem_cons, not_or] at h ih
    rw [insert, if_neg h.1]
    split_ifs with hlt
    · exact .rfl
    · exact ((ih h.2).cons _).trans (.swap _ _ _)

theorem perm_foldl_insert {members : List (String × Json)} (h : (keys (members ++ object)).Nodup) :
    (members.foldl (fun object m => object.insert m.1 m.2) object).Perm (members ++ object) := by
  induction members generalizing object with
  | nil => exact .rfl
  | cons m members ih =>
    obtain ⟨k, v⟩ := m
    simp only [keys, List.cons_append, List.map_cons, List.nodup_cons, List.map_append,
      List.mem_append, not_or] at h
    have hinsert : (members ++ object.insert k v).Perm ((k, v) :: (members ++ object)) :=
      ((perm_insert h.1.2).append_left members).trans List.perm_middle
    refine (ih ((hinsert.map _).nodup_iff.2 ?_)).trans hinsert
    simpa [List.nodup_cons] using h

/-- Members with different keys are only put into another order. -/
theorem perm_ofMembers {members : List (String × Json)} (h : (keys members).Nodup) :
    (ofMembers members).Perm members := by
  have hnodup : (keys (members ++ [])).Nodup := by rwa [List.append_nil]
  have hfold := perm_foldl_insert hnodup
  rwa [List.append_nil] at hfold

end Object

/-! ## Members of a text -/

/-- The members of the object that a text stands for, in the order in which they are written. -/
def membersWritten (t : String) : List (String × Json) :=
  match skipSpace t.toList with
  | '{' :: tail =>
    match foldMembers id (readMember (readValue (maxDepth - 1))) (tail.length + 1) true [] tail with
    | .ok (members, _) => members.reverse
    | .error _ => []
  | _ => []

/-- A value starts with the character that tells what it is. -/
def Leads (c : Char) : Json → Prop
  | .null => c = 'n'
  | .boolean _ => c = 't' ∨ c = 'f'
  | .number _ => c = '-' ∨ c.isDigit = true
  | .text _ => c = '"'
  | .array _ => c = '['
  | .object _ => c = '{'

theorem leads_of_readValueWith {nested : Option (Reader Json)} {s tail rest : List Char} {c : Char}
    {v : Json} (hs : skipSpace s = c :: tail) (h : readValueWith nested s = .ok (v, rest)) :
    Leads c v := by
  simp only [readValueWith, hs] at h
  split_ifs at h with hn ht hf hminus hdigit hquote hlist hobject
  case pos | pos | pos | pos | pos | pos =>
    obtain ⟨found, -, hv⟩ := map_eq_ok_iff.1 h
    cases hv
    simp [Leads, *]
  case pos =>
    split at h
    · cases h
    · obtain ⟨found, -, hv⟩ := bind_eq_ok_iff.1 h
      cases hv
      exact hlist
  case pos =>
    split at h
    · cases h
    · obtain ⟨found, -, hv⟩ := bind_eq_ok_iff.1 h
      cases hv
      exact hobject

theorem text_of_readValueWith {nested : Option (Reader Json)} {s tail rest : List Char} {v : Json}
    (hs : skipSpace s = '"' :: tail) (h : readValueWith nested s = .ok (v, rest)) :
    ∃ t, v = .text t ∧ readString tail = .ok (t, rest) := by
  replace h : (readString tail).map (fun found => (Json.text found.1, found.2)) = .ok (v, rest) := by
    simpa [readValueWith, hs] using h
  obtain ⟨⟨t, rest⟩, hread, hv⟩ := map_eq_ok_iff.1 h
  cases hv
  exact ⟨t, rfl, hread⟩

theorem null_of_readValueWith {nested : Option (Reader Json)} {s tail rest : List Char} {v : Json}
    (hs : skipSpace s = 'n' :: tail) (h : readValueWith nested s = .ok (v, rest)) :
    v = .null ∧ skipWord ['u', 'l', 'l'] tail = .ok rest := by
  replace h : (skipWord ['u', 'l', 'l'] tail).map (fun rest => (Json.null, rest)) = .ok (v, rest) := by
    simpa [readValueWith, hs] using h
  obtain ⟨rest, hword, hv⟩ := map_eq_ok_iff.1 h
  cases hv
  exact ⟨rfl, hword⟩

theorem exists_readValueWith (depth : Nat) : ∃ nested, readValue depth = readValueWith nested := by
  cases depth with
  | zero => exact ⟨none, rfl⟩
  | succ depth => exact ⟨some (readValue depth), rfl⟩

/-- A value is told from the first character that is not blank. -/
theorem exists_start_of_readValue {depth : Nat} {s rest : List Char} {v : Json}
    (h : readValue depth s = .ok (v, rest)) :
    ∃ nested c tail, readValueWith nested s = .ok (v, rest) ∧ skipSpace s = c :: tail ∧ Leads c v := by
  obtain ⟨nested, hnested⟩ := exists_readValueWith depth
  rw [hnested] at h
  cases hs : skipSpace s with
  | nil => simp [readValueWith, hs] at h
  | cons c tail => exact ⟨nested, c, tail, h, rfl, leads_of_readValueWith hs h⟩

/-- A text that stands for an object is read member by member up to the end. -/
theorem exists_members_of_read {t : String} {v : Object} (h : read t = .ok (.object v)) :
    ∃ tail rest, skipSpace t.toList = '{' :: tail ∧
      foldMembers id (readMember (readValue (maxDepth - 1))) (tail.length + 1) true [] tail =
        .ok ((membersWritten t).reverse, rest) ∧
      endOfText rest = .ok () ∧ v = Object.ofMembers (membersWritten t) := by
  have hdepth : readValue maxDepth = readValueWith (some (readValue (maxDepth - 1))) := rfl
  simp only [read, bind_eq_ok_iff, Prod.exists, Except.ok.injEq, hdepth] at h
  obtain ⟨value, rest, hvalue, ⟨⟩, hend, rfl⟩ := h
  cases hs : skipSpace t.toList with
  | nil => simp [readValueWith, hs] at hvalue
  | cons c tail =>
    obtain rfl : c = '{' := leads_of_readValueWith hs hvalue
    replace hvalue : readObject (readValue (maxDepth - 1)) tail = .ok (.object v, rest) := by
      simpa [readValueWith, hs] using hvalue
    simp only [readObject, bind_eq_ok_iff, Prod.exists, Except.ok.injEq, Prod.mk.injEq,
      Json.object.injEq] at hvalue
    obtain ⟨members, rest, hmembers, rfl, rfl⟩ := hvalue
    have hwritten : membersWritten t = members.reverse := by
      simp only [membersWritten, hs, hmembers]
    refine ⟨tail, rest, rfl, ?_, hend, ?_⟩
    · rw [hwritten, List.reverse_reverse, hmembers]
    · rw [hwritten]

/-! ## Other readers

Where a text has been read as a value, a reader with a step of its own comes to the same end, if the step
does with the text of a member, or of an item, what can be told from its value. -/

section Readers

variable {depth count : Nat} {first : Bool} {s rest : List Char}

/-- The step does with the text of a member what `take` does with its value. -/
def FollowsMember {σ ε : Type} (depth : Nat) (step : σ → String → List Char → Except ε (σ × List Char))
    (take : σ → String × Json → Option σ) (m : String × Json) : Prop :=
  ∀ state s start rest, skipColon s = .ok start → readValue depth start = .ok (m.2, rest) →
    (step state m.1 s).toOption = (take state m).map (·, rest)

/-- Where the members of a text have been read as values, a step that follows them folds over the values. The
induction is on the fuel, by which both readers go. -/
theorem foldMembers_follows {before found : List (String × Json)}
    (h : foldMembers id (readMember (readValue depth)) count first before s = .ok (found, rest)) :
    ∃ members : Object, found = members.reverse ++ before ∧
      ∀ {σ ε : Type} (lift : Fault → ε) {step : σ → String → List Char → Except ε (σ × List Char)}
        {take : σ → String × Json → Option σ}, (∀ m ∈ members, FollowsMember depth step take m) →
        ∀ state, (foldMembers lift step count first state s).toOption =
          (members.foldlM take state).map (·, rest) := by
  induction count generalizing first before s with
  | zero => cases h
  | succ count ih =>
    rw [foldMembers] at h
    split at h
    · cases h
    · next hnext =>
      cases h
      refine ⟨[], rfl, fun lift _ _ _ state => ?_⟩
      simp [foldMembers, hnext, Except.toOption]
    · next quoted hnext =>
      split at h
      · cases h
      · next key after hkey =>
        split at h
        · cases h
        · next state following hmember =>
          simp only [readMember, bind_eq_ok_iff, Prod.exists, Except.ok.injEq, Prod.mk.injEq] at hmember
          obtain ⟨start, hcolon, value, following, hvalue, rfl, rfl⟩ := hmember
          obtain ⟨members, rfl, hlater⟩ := ih h
          refine ⟨(key, value) :: members, by simp, fun lift step take hfollows state => ?_⟩
          have hstep := hfollows _ List.mem_cons_self state after start following hcolon hvalue
          rw [List.foldlM_cons]
          simp only [foldMembers, hnext, hkey]
          cases htake : take state (key, value) with
          | none =>
            -- The step does not take the value, so neither fold gets to the members after it.
            rw [htake] at hstep
            obtain ⟨e, hread⟩ := toOption_eq_none_iff.1 hstep
            rw [hread]
            rfl
          | some state' =>
            rw [htake] at hstep
            rw [toOption_eq_some_iff.1 hstep]
            exact hlater lift (fun m hm => hfollows m (List.mem_cons_of_mem _ hm)) state'

/-- A reader of objects comes to the end of a text that stands for one, with what its step takes from the
members in the order in which they are written. -/
theorem exists_follows_of_read {t : String} {v : Object} (h : read t = .ok (.object v)) :
    ∃ tail rest, skipSpace t.toList = '{' :: tail ∧ endOfText rest = .ok () ∧
      v = Object.ofMembers (membersWritten t) ∧
      ∀ {σ ε : Type} (lift : Fault → ε) {step : σ → String → List Char → Except ε (σ × List Char)}
        {take : σ → String × Json → Option σ},
        (∀ m ∈ membersWritten t, FollowsMember (maxDepth - 1) step take m) →
        ∀ state, (foldMembers lift step (tail.length + 1) true state tail).toOption =
          ((membersWritten t).foldlM take state).map (·, rest) := by
  obtain ⟨tail, rest, hs, hmembers, hend, hv⟩ := exists_members_of_read h
  obtain ⟨members, hfound, hfollows⟩ := foldMembers_follows hmembers
  obtain rfl : membersWritten t = members := by simpa using hfound
  exact ⟨tail, rest, hs, hend, hv, hfollows⟩

end Readers

end DidAdmission.Json
