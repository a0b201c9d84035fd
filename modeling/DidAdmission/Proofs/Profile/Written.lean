-- SUMMARY: A profile is read from every text of an object with its members, in whatever order they stand.
import DidAdmission.Profile.Read
import DidAdmission.Proofs.Json.Shapes

/-!
# Written profiles

The members of a draft have one value each (`Draft.json?`), and a text is written for the draft when it is
that of an object with these members, in any order and with nothing beside them (`Draft.IsWrittenIn`). What
has been read of such a text at any point is the part of the draft whose members have been met
(`Draft.keep`), so at its end it is the whole draft.
-/

namespace DidAdmission

/-! ## Names -/

theorem CountPolicy.lookup_name (policy : CountPolicy) :
    CountPolicy.named.lookup policy.name = some policy := by
  cases policy <;> decide

theorem DeletionPolicy.lookup_name (policy : DeletionPolicy) :
    DeletionPolicy.named.lookup policy.name = some policy := by
  cases policy <;> decide

theorem Suite.lookup_name (suite : Suite) : Suite.named.lookup suite.name = some suite := by
  cases suite <;> decide

namespace Profile

variable {d draft : Draft} {m : Member} {β : Type}

/-! ## Members -/

namespace Member

theorem ofName?_name (m : Member) : ofName? m.name = some m := by
  cases m <;> decide

theorem name_inj {m' : Member} : m.name = m'.name ↔ m = m' := by
  refine ⟨fun h => ?_, congrArg _⟩
  have hfound := ofName?_name m
  rw [h, ofName?_name] at hfound
  exact (Option.some.inj hfound).symm

/-- The members that have a value, each by its name. -/
def entries (value? : Member → Option β) : List (String × β) :=
  all.filterMap fun m => (value? m).map (m.name, ·)

theorem mem_entries {value? : Member → Option β} {name : String} {b : β} :
    (name, b) ∈ entries value? ↔ ∃ m : Member, m.name = name ∧ value? m = some b := by
  have hall : ∀ m : Member, m ∈ all := by
    intro m
    cases m <;> decide
  simp [entries, List.mem_filterMap, hall, and_comm]

theorem nodup_entries (value? : Member → Option β) : ((entries value?).map Prod.fst).Nodup := by
  have hnames : (all.map name).Nodup := by decide
  have hsub : ∀ ms : List Member,
      ((ms.filterMap fun m => (value? m).map (m.name, ·)).map Prod.fst).Sublist (ms.map name) := by
    intro ms
    induction ms with
    | nil => exact .slnil
    | cons m ms ih =>
      rw [List.filterMap_cons, List.map_cons]
      cases value? m with
      | none => exact ih.cons _
      | some b => exact ih.cons_cons _
  exact (hsub all).nodup hnames

end Member

/-! ## Drafts -/

namespace Draft

/-- The value that is written for a member: a list of names, a name or a truth value. -/
def json? (d : Draft) : Member → Option Json
  | .suites => d.suites.map fun suites => .array (suites.map fun suite => .text suite.name)
  | .signatureCount => d.signatureCount.map fun policy => .text policy.name
  | .deletion => d.deletion.map fun policy => .text policy.name
  | .strictNetwork => d.strictNetwork.map .boolean

/-- The members of the draft as they are written. -/
def members (d : Draft) : List (String × Json) :=
  Member.entries d.json?

/-- The text is that of an object with the members of the draft, in any order, and no others. -/
def IsWrittenIn (d : Draft) (content : String) : Prop :=
  (∃ object, Json.read content = .ok (.object object)) ∧ (Json.membersWritten content).Perm d.members

theorem isSome_json? (d : Draft) (m : Member) : (d.json? m).isSome = m.isIn d := by
  cases m <;> simp [json?, Member.isIn]

/-- The part of the draft with the given members. -/
def keep (d : Draft) (p : Member → Bool) : Draft where
  suites := if p .suites then d.suites else none
  signatureCount := if p .signatureCount then d.signatureCount else none
  deletion := if p .deletion then d.deletion else none
  strictNetwork := if p .strictNetwork then d.strictNetwork else none

theorem isIn_keep {p : Member → Bool} : m.isIn (d.keep p) = (p m && m.isIn d) := by
  cases m
  all_goals simp only [Member.isIn, keep]
  all_goals split_ifs <;> simp [*]

theorem keep_none (d : Draft) : d.keep (fun _ => false) = .empty := rfl

theorem keep_eq_self {p : Member → Bool} (h : ∀ m : Member, m.isIn d = true → p m = true) :
    d.keep p = d := by
  have hfield : ∀ {α : Type} {field : Option α} {c : Bool}, (field.isSome = true → c = true) →
      (if c then field else none) = field := by
    intro α field c hc
    cases field <;> simp_all
  rw [keep, hfield (h .suites), hfield (h .signatureCount), hfield (h .deletion),
    hfield (h .strictNetwork)]

/-- The draft with a member as it is in `d`. -/
def fill (draft d : Draft) : Member → Draft
  | .suites => { draft with suites := d.suites }
  | .signatureCount => { draft with signatureCount := d.signatureCount }
  | .deletion => { draft with deletion := d.deletion }
  | .strictNetwork => { draft with strictNetwork := d.strictNetwork }

theorem fill_keep (p : Member → Bool) : (d.keep p).fill d m = d.keep fun m' => p m' || m' == m := by
  cases m <;> simp [fill, keep]

/-- What a member of `d` makes of a draft that has not met it. -/
def take? (d draft : Draft) (member : String × Json) : Option Draft :=
  (Member.ofName? member.1).bind fun m => if m.isIn draft then none else some (draft.fill d m)

/-- Members of a draft that have not been met are taken one after another; each step adds the member at hand
to those that `p` says have been met. -/
theorem foldlM_take?_keep {members : List (String × Json)} {p : Member → Bool}
    (hmem : ∀ member ∈ members, member ∈ d.members) (hnodup : (members.map Prod.fst).Nodup)
    (hnew : ∀ m : Member, m.name ∈ members.map Prod.fst → p m = false) :
    members.foldlM d.take? (d.keep p) =
      some (d.keep fun m => p m || (members.map Prod.fst).contains m.name) := by
  induction members generalizing p with
  | nil => simp
  | cons member members ih =>
    obtain ⟨m, hname, -⟩ := Member.mem_entries.1 (hmem member List.mem_cons_self)
    rw [List.map_cons, List.nodup_cons] at hnodup
    have hp : p m = false := hnew m (by simp [hname])
    rw [List.foldlM_cons, take?, ← hname, Member.ofName?_name, Option.bind_some, isIn_keep, hp,
      fill_keep]
    have hlater : ∀ m' : Member, m'.name ∈ members.map Prod.fst → (p m' || m' == m) = false := by
      intro m' hm'
      have hne : m' ≠ m := by
        rintro rfl
        exact hnodup.1 (hname ▸ hm')
      rw [hnew m' (List.mem_cons_of_mem _ hm'), beq_false_of_ne hne, Bool.or_false]
    refine (ih (fun member h => hmem member (List.mem_cons_of_mem _ h)) hnodup.2 hlater).trans ?_
    congr 2
    funext m'
    have hsame : (m' == m) = (m'.name == m.name) := by
      rw [Bool.eq_iff_iff, beq_iff_eq, beq_iff_eq, Member.name_inj]
    rw [List.map_cons, List.contains_cons, ← hname, Bool.or_assoc, hsame]

/-- The members of a draft make the draft, in whatever order they are taken. -/
theorem foldlM_take? {members : List (String × Json)} (h : members.Perm d.members) :
    members.foldlM d.take? .empty = some d := by
  have hnodup : (members.map Prod.fst).Nodup := (h.map _).nodup_iff.2 (Member.nodup_entries _)
  rw [← keep_none d, foldlM_take?_keep (fun _ => h.mem_iff.1) hnodup (fun _ _ => rfl), keep_eq_self]
  intro m hm
  rw [← isSome_json?, Option.isSome_iff_exists] at hm
  obtain ⟨value, hvalue⟩ := hm
  have hmem : (m.name, value) ∈ members := h.mem_iff.2 (Member.mem_entries.2 ⟨m, rfl, hvalue⟩)
  rw [Bool.false_or, List.contains_iff_mem]
  exact List.mem_map_of_mem hmem

end Draft

/-! ## Texts -/

theorem Member.read_of_readValue {depth : Nat} {s rest : List Char} {value : Json}
    (hvalue : d.json? m = some value) (h : Json.readValue depth s = .ok (value, rest)) :
    m.read draft s = .ok (draft.fill d m, rest) := by
  cases m with
  | suites =>
    obtain ⟨suites, hsuites, rfl⟩ := Option.map_eq_some_iff.1 hvalue
    have hshape := Json.listShape_of_readValue
      (fun _ suite _ _ h => Json.variantShape_of_readValue h (Suite.lookup_name suite)) h
    rw [Member.read, hshape, Draft.fill, hsuites]
    rfl
  | signatureCount =>
    obtain ⟨policy, hpolicy, rfl⟩ := Option.map_eq_some_iff.1 hvalue
    rw [Member.read, Json.variantShape_of_readValue h (CountPolicy.lookup_name policy), Draft.fill, hpolicy]
    rfl
  | deletion =>
    obtain ⟨policy, hpolicy, rfl⟩ := Option.map_eq_some_iff.1 hvalue
    rw [Member.read, Json.variantShape_of_readValue h (DeletionPolicy.lookup_name policy), Draft.fill,
      hpolicy]
    rfl
  | strictNetwork =>
    obtain ⟨strict, hstrict, rfl⟩ := Option.map_eq_some_iff.1 hvalue
    rw [Member.read, Json.booleanShape_of_readValue h, Draft.fill, hstrict]
    rfl

theorem readMember_follows {depth : Nat} {member : String × Json} (hmem : member ∈ d.members) :
    Json.FollowsMember depth readMember d.take? member := by
  obtain ⟨m, hname, hvalue⟩ := Member.mem_entries.1 hmem
  intro draft s start rest hcolon hread
  rw [readMember, Draft.take?, ← hname, Member.ofName?_name, Option.bind_some]
  simp only
  split_ifs
  · rfl
  · rw [hcolon, mapError_ok, ok_bind, Member.read_of_readValue hvalue hread]
    rfl

/-- What is written for a draft is read as the profile that the draft makes. -/
theorem ofText_of_isWrittenIn {content : String} (h : d.IsWrittenIn content) :
    ofText content = .ok d.finish := by
  obtain ⟨⟨object, hread⟩, hperm⟩ := h
  obtain ⟨tail, rest, hs, hend, -, hfollows⟩ := Json.exists_follows_of_read hread
  have hfold := hfollows Json.Mismatch.malformed
    (fun member hmember => readMember_follows (hperm.mem_iff.1 hmember)) .empty
  rw [Draft.foldlM_take? hperm] at hfold
  have hmembers := toOption_eq_some_iff.1 hfold
  rw [ofText, shape, Json.atValue, hs]
  simp only [if_true, hmembers, hend, ok_bind, mapError_ok]

end Profile

end DidAdmission
