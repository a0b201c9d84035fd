-- SUMMARY: Which keys and signatures are read, all or none, and what the first bad entry fails for.
import DidAdmission.Document
import DidAdmission.Instruction
import DidAdmission.Proofs.Precedence
import Mathlib.Data.List.Forall2
import Mathlib.Data.List.Perm.Lattice

/-!
# Entries

Keys and signatures are read from arrays of one form: `EntryForm` says what is asked of an entry. A list
of entries is read just if each of them holds what is asked (`EntryForm.Holds`), with its own data and in
order. Where it is not read, the first bad entry is reported for the first clause that it violates
(`EntryForm.Violates`). Nothing else in an object has a say (`EntryForm.AlikeIn`).
-/

namespace DidAdmission

/-! ## Members -/

namespace Json.Object

variable {object object' entry : Json.Object} {name : String}

/-- The value of a member, unless it is null. -/
def given? (entry : Json.Object) (name : String) : Option Json :=
  (entry.get? name).filter fun value => !value.isNull

/-- The member stands for the items: an array does for its own, null or no member at all for none. -/
inductive Lists (object : Json.Object) (name : String) : List Json → Prop
  | absent (h : object.get? name = none) : Lists object name []
  | null (h : object.get? name = some .null) : Lists object name []
  | array {items : List Json} (h : object.get? name = some (.array items)) : Lists object name items

/-- The member is a text that is read as the URI. -/
def HoldsUri (entry : Json.Object) (name : String) (uri : Uri) : Prop :=
  ∃ text, entry.get? name = some (.text text) ∧ Uri.parse? text = some uri

/-- The member is not a text, or not that of a URI. -/
inductive LacksUri (entry : Json.Object) (name : String) : ReadFailure → Prop
  | notText (h : ∀ text, entry.get? name ≠ some (.text text)) : LacksUri entry name (.missingField name)
  | notUri {text : String} (h : entry.get? name = some (.text text)) (huri : Uri.parse? text = none) :
    LacksUri entry name (.invalidUri name text)

theorem optionalArray_eq_ok_iff {items : List Json} :
    object.optionalArray name = .ok items ↔ object.Lists name items := by
  constructor
  · intro h
    unfold optionalArray at h
    split at h
    · next habsent =>
      obtain rfl := Except.ok.inj h
      exact .absent habsent
    · next hnull =>
      obtain rfl := Except.ok.inj h
      exact .null hnull
    · next harray =>
      obtain rfl := Except.ok.inj h
      exact .array harray
    · cases h
  · rintro (habsent | hnull | harray)
    · simp only [optionalArray, habsent]
    · simp only [optionalArray, hnull]
    · simp only [optionalArray, harray]

theorem optionalArray_eq_error_iff {failure : ReadFailure} :
    object.optionalArray name = .error failure ↔
      (∀ items, ¬ object.Lists name items) ∧ .missingField name = failure := by
  simp only [← optionalArray_eq_ok_iff]
  unfold optionalArray
  split <;> simp

theorem string_eq_ok_iff {text : String} :
    entry.string name = .ok text ↔ entry.get? name = some (.text text) := by
  unfold string
  cases entry.get? name with
  | none => simp
  | some value => cases value <;> simp [text?]

theorem string_eq_error_iff {failure : ReadFailure} :
    entry.string name = .error failure ↔
      (∀ text, entry.get? name ≠ some (.text text)) ∧ .missingField name = failure := by
  simp only [ne_eq, ← string_eq_ok_iff]
  unfold string
  split <;> simp

theorem uri_eq_ok_iff {uri : Uri} : entry.uri name = .ok uri ↔ entry.HoldsUri name uri := by
  rw [Object.uri, bind_eq_ok_iff, HoldsUri]
  refine exists_congr fun text => ?_
  rw [string_eq_ok_iff]
  refine and_congr_right fun _ => ?_
  split <;> simp_all

theorem uri_eq_error_iff {failure : ReadFailure} :
    entry.uri name = .error failure ↔ entry.LacksUri name failure := by
  rw [Object.uri, bind_eq_error_iff]
  constructor
  · rintro (h | ⟨text, htext, h⟩)
    · obtain ⟨hnone, rfl⟩ := string_eq_error_iff.1 h
      exact .notText hnone
    · cases huri : Uri.parse? text with
      | some uri => simp [huri] at h
      | none =>
        simp only [huri, Except.error.injEq] at h
        exact h ▸ .notUri (string_eq_ok_iff.1 htext) huri
  · rintro (hnone | ⟨htext, huri⟩)
    · exact .inl (string_eq_error_iff.2 ⟨hnone, rfl⟩)
    · exact .inr ⟨_, string_eq_ok_iff.2 htext, by simp [huri]⟩

end Json.Object

/-! ## Suites -/

namespace Suite

/-- A search among all suites finds the one that has the name. -/
theorem find?_eq_some_iff {typeName : Suite → String} (hinj : Function.Injective typeName)
    {type : String} {suite : Suite} :
    (all.find? fun s => typeName s == type) = some suite ↔ typeName suite = type := by
  constructor
  · intro h
    have hsame := List.find?_some h
    exact eq_of_beq hsame
  · rintro rfl
    cases hfound : all.find? fun s => typeName s == typeName suite with
    | none =>
      have hmem : suite ∈ all := by cases suite <;> decide
      exact absurd (beq_self_eq_true _) (List.find?_eq_none.1 hfound suite hmem)
    | some found =>
      have hsame := List.find?_some hfound
      rw [hinj (eq_of_beq hsame)]

theorem ofKeyType?_eq_some_iff {type : String} {suite : Suite} :
    ofKeyType? type = some suite ↔ suite.keyType = type := by
  refine find?_eq_some_iff fun a b h => ?_
  cases a <;> cases b <;> first | rfl | exact absurd h (by decide)

theorem ofSignatureType?_eq_some_iff {type : String} {suite : Suite} :
    ofSignatureType? type = some suite ↔ suite.signatureType = type := by
  refine find?_eq_some_iff fun a b h => ?_
  cases a <;> cases b <;> first | rfl | exact absurd h (by decide)

end Suite

namespace Json.Object

variable {entry : Json.Object} {typeName : Suite → String} {ofType? : String → Option Suite}

/-- The `type` is not a text, or no suite has it for a name. -/
inductive LacksSuite (entry : Json.Object) (typeName : Suite → String) : ReadFailure → Prop
  | notText (h : ∀ text, entry.get? "type" ≠ some (.text text)) :
    LacksSuite entry typeName (.missingField "type")
  | unknown {type : String} (h : entry.get? "type" = some (.text type))
    (hunknown : ∀ suite, typeName suite ≠ type) : LacksSuite entry typeName (.unknownSuite type)

theorem suite_eq_ok_iff (hof : ∀ {type suite}, ofType? type = some suite ↔ typeName suite = type)
    {suite : Suite} :
    entry.suite ofType? = .ok suite ↔ entry.get? "type" = some (.text (typeName suite)) := by
  rw [Object.suite, bind_eq_ok_iff, ← string_eq_ok_iff]
  constructor
  · rintro ⟨type, htype, h⟩
    cases hsuite : ofType? type with
    | none => simp [hsuite] at h
    | some found =>
      simp only [hsuite, Except.ok.injEq] at h
      rw [htype, hof.1 (h ▸ hsuite)]
  · intro htype
    exact ⟨_, htype, by simp [hof.2 rfl]⟩

theorem suite_eq_error_iff (hof : ∀ {type suite}, ofType? type = some suite ↔ typeName suite = type)
    {failure : ReadFailure} :
    entry.suite ofType? = .error failure ↔ entry.LacksSuite typeName failure := by
  rw [Object.suite, bind_eq_error_iff]
  constructor
  · rintro (h | ⟨type, htype, h⟩)
    · obtain ⟨hnone, rfl⟩ := string_eq_error_iff.1 h
      exact .notText hnone
    · cases hsuite : ofType? type with
      | some suite => simp [hsuite] at h
      | none =>
        simp only [hsuite, Except.error.injEq] at h
        refine h ▸ .unknown (string_eq_ok_iff.1 htype) fun suite hname => ?_
        cases hsuite.symm.trans (hof.2 hname)
  · rintro (hnone | ⟨htype, hunknown⟩)
    · exact .inl (string_eq_error_iff.2 ⟨hnone, rfl⟩)
    · refine .inr ⟨_, string_eq_ok_iff.2 htype, ?_⟩
      have hnone : ofType? _ = none :=
        Option.eq_none_iff_forall_ne_some.2 fun suite hsuite => hunknown suite (hof.1 hsuite)
      simp only [hnone]

end Json.Object

/-! ## Material -/

/-- A filter keeps one item alone where that item passes and no other does. -/
theorem filter_eq_singleton_iff {α : Type} {p : α → Bool} {xs : List α} {x : α} (h : xs.Nodup) :
    xs.filter p = [x] ↔ x ∈ xs ∧ p x = true ∧ ∀ y ∈ xs, y ≠ x → p y = false := by
  rw [← List.perm_singleton, List.perm_ext_iff_of_nodup (h.filter p) (List.nodup_singleton x)]
  simp only [List.mem_filter, List.mem_singleton]
  constructor
  · intro hall
    obtain ⟨hx, hpx⟩ := (hall x).2 rfl
    exact ⟨hx, hpx, fun y hy hne => Bool.eq_false_iff.2 fun hpy => hne ((hall y).1 ⟨hy, hpy⟩)⟩
  · rintro ⟨hx, hpx, hothers⟩ y
    refine ⟨fun ⟨hy, hpy⟩ => ?_, fun hsame => hsame ▸ ⟨hx, hpx⟩⟩
    by_contra hne
    exact absurd hpy (Bool.eq_false_iff.1 (hothers y hy hne))

/-- The fields in which an entry holds a value other than null, in their order. -/
def Material.held (entry : Json.Object) (fields : List MaterialField) : List MaterialField :=
  fields.filter fun field => (entry.given? field.name).isSome

namespace Json.Object

/-- Just one of the fields holds a value, and it stands for the bytes in the field's encoding. -/
def HoldsMaterial (entry : Json.Object) (fields : List MaterialField) (encoding : Encoding)
    (bytes : Bytes) : Prop :=
  ∃ field value, Material.held entry fields = [field] ∧ entry.given? field.name = some value ∧
    field.encoding = encoding ∧ encoding.decodeValue value = .ok bytes

/-- None of the fields holds a value, or several do. -/
inductive LacksMaterial (entry : Json.Object) (fields : List MaterialField) : ReadFailure → Prop
  | missing (h : Material.held entry fields = []) :
    LacksMaterial entry fields (.encoding .missing)
  | ambiguous (h : 2 ≤ (Material.held entry fields).length) :
    LacksMaterial entry fields
      (.encoding (.ambiguous ((Material.held entry fields).map (·.name))))

/-- Just one of the fields holds a value, and it stands for no bytes. -/
inductive SpoilsMaterial (entry : Json.Object) (fields : List MaterialField) : ReadFailure → Prop
  | undecodable {field : MaterialField} {value : Json} {fault : Encoding.Fault}
    (hheld : Material.held entry fields = [field]) (hvalue : entry.given? field.name = some value)
    (hfault : field.encoding.decodeValue value = .error fault) :
    SpoilsMaterial entry fields (.encoding (.undecodable field.name fault))

end Json.Object

namespace Material

variable {entry entry' : Json.Object} {fields : List MaterialField}

theorem inField?_eq (entry : Json.Object) (field : MaterialField) :
    inField? entry field = (entry.given? field.name).map (Material.mk field) := by
  rw [inField?, Json.Object.given?]
  cases entry.get? field.name with
  | none => rfl
  | some value => cases hnull : value.isNull <;> simp [hnull, Option.filter]

theorem map_field_present (entry : Json.Object) (fields : List MaterialField) :
    (present entry fields).map (·.field) = held entry fields := by
  induction fields with
  | nil => rfl
  | cons field fields ih =>
    rw [present] at ih ⊢
    rw [held, List.filterMap_cons, List.filter_cons, inField?_eq]
    cases entry.given? field.name with
    | none => exact ih
    | some value => exact congrArg (field :: ·) ih

theorem given?_of_mem_present {material : Material} (h : material ∈ present entry fields) :
    entry.given? material.field.name = some material.value := by
  obtain ⟨field, -, hfound⟩ := List.mem_filterMap.1 h
  rw [inField?_eq] at hfound
  obtain ⟨value, hvalue, rfl⟩ := Option.map_eq_some_iff.1 hfound
  exact hvalue

theorem resolve_eq_ok_iff_held {material : Material} :
    resolve entry fields = .ok material ↔
      held entry fields = [material.field] ∧
        entry.given? material.field.name = some material.value := by
  rw [← map_field_present, resolve]
  constructor
  · intro h
    split at h
    · cases h
    · next found hpresent =>
      obtain rfl := Except.ok.inj h
      have hmem : found ∈ present entry fields := hpresent ▸ List.mem_singleton_self found
      exact ⟨by rw [hpresent]; rfl, given?_of_mem_present hmem⟩
    · cases h
  · rintro ⟨hheld, hvalue⟩
    obtain ⟨found, hpresent, hfield⟩ := List.map_eq_singleton_iff.1 hheld
    have hmem : found ∈ present entry fields := hpresent ▸ List.mem_singleton_self found
    have hfound := given?_of_mem_present hmem
    rw [hfield, hvalue] at hfound
    obtain ⟨field, value⟩ := found
    obtain rfl : field = material.field := hfield
    obtain rfl := Option.some.inj hfound
    simp only [hpresent]

theorem resolve_eq_error_iff {failure : ReadFailure} :
    (resolve entry fields).mapError .encoding = .error failure ↔
      entry.LacksMaterial fields failure := by
  have hfields := map_field_present entry fields
  constructor
  · intro h
    unfold resolve at h
    split at h
    · next hpresent =>
      rw [hpresent] at hfields
      obtain rfl := Except.error.inj h
      exact .missing hfields.symm
    · cases h
    · next hnil hsingle =>
      obtain rfl := Except.error.inj h
      have hnames : (present entry fields).map (·.field.name) =
          (held entry fields).map (·.name) := by
        rw [← hfields, List.map_map]
        rfl
      rw [hnames]
      refine .ambiguous ?_
      rw [← hfields, List.length_map]
      match hpresent : present entry fields with
      | [] => exact absurd hpresent hnil
      | [found] => exact absurd hpresent (hsingle found)
      | _ :: _ :: _ => simp
  · rintro (hnone | hmany)
    · rw [hnone, List.map_eq_nil_iff] at hfields
      simp only [resolve, hfields, mapError_error]
    · rw [← hfields, List.length_map] at hmany
      rw [← hfields, List.map_map]
      match hpresent : present entry fields, hmany with
      | _ :: _ :: _, _ => simp only [resolve, hpresent, mapError_error]; rfl

end Material

theorem Json.Object.material_eq_ok_iff {entry : Json.Object} {fields : List MaterialField}
    {encoding : Encoding} {bytes : Bytes} :
    entry.material fields = .ok (encoding, bytes) ↔
      entry.HoldsMaterial fields encoding bytes := by
  simp only [Object.material, bind_eq_ok_iff, mapError_eq_ok_iff, Material.resolve_eq_ok_iff_held,
    Material.decode, Except.ok.injEq, Prod.mk.injEq, HoldsMaterial]
  constructor
  · rintro ⟨material, ⟨hheld, hvalue⟩, _, hdecode, rfl, rfl⟩
    exact ⟨material.field, material.value, hheld, hvalue, rfl, hdecode⟩
  · rintro ⟨field, value, hheld, hvalue, rfl, hdecode⟩
    exact ⟨⟨field, value⟩, ⟨hheld, hvalue⟩, bytes, hdecode, rfl, rfl⟩

/-! ## Entries -/

/-- What is asked of an entry, in the order in which it is read. -/
inductive EntryClause
  | object
  | id
  | type
  | controller
  | presence
  | decoding
deriving DecidableEq, Repr

/-- What an array asks of its entries, and where it stands in what is read of them. -/
structure EntryForm (α : Type) where
  array : String
  typeName : Suite → String
  fields : List MaterialField
  id : α → Uri
  suite : α → Suite
  /-- Not all entries have a controller. -/
  controller? : Option (α → Uri)
  encoding : α → Encoding
  bytes : α → Bytes

/-- The form of the keys of a document. -/
def PublicKey.form : EntryForm PublicKey where
  array := "publicKey"
  typeName := Suite.keyType
  fields := Material.keyFields
  id := PublicKey.id
  suite := PublicKey.suite
  controller? := some PublicKey.controller
  encoding := PublicKey.encoding
  bytes := PublicKey.bytes

/-- The form of the signatures of an instruction. -/
def Signature.form : EntryForm Signature where
  array := "signatures"
  typeName := Suite.signatureType
  fields := Material.signatureFields
  id := Signature.target
  suite := Signature.suite
  controller? := none
  encoding := Signature.encoding
  bytes := Signature.bytes

namespace EntryForm

variable {α : Type} {form : EntryForm α}

def clauses (form : EntryForm α) : List EntryClause :=
  match form.controller? with
  | some _ => [.object, .id, .type, .controller, .presence, .decoding]
  | none => [.object, .id, .type, .presence, .decoding]

/-- The entry holds what is asked, with the data of `x`. -/
structure Holds (form : EntryForm α) (entry : Json.Object) (x : α) : Prop where
  id : entry.HoldsUri "id" (form.id x)
  type : entry.get? "type" = some (.text (form.typeName (form.suite x)))
  controller : ∀ controller ∈ form.controller?, entry.HoldsUri "controller" (controller x)
  material : entry.HoldsMaterial form.fields (form.encoding x) (form.bytes x)

/-- What an entry is short of, and which failure reports that. -/
def Lacks (form : EntryForm α) (entry : Json.Object) : EntryClause → ReadFailure → Prop
  | .object, _ => False
  | .id, failure => entry.LacksUri "id" failure
  | .type, failure => entry.LacksSuite form.typeName failure
  | .controller, failure => entry.LacksUri "controller" failure
  | .presence, failure => entry.LacksMaterial form.fields failure
  | .decoding, failure => entry.SpoilsMaterial form.fields failure

/-- The item violates the clause, which the failure reports. An item that is not an object violates none
but the first. -/
def Violates (form : EntryForm α) (item : Json) (clause : EntryClause) (failure : ReadFailure) : Prop :=
  match item.object? with
  | none => clause = .object ∧ .missingField (form.array ++ "[]") = failure
  | some entry => form.Lacks entry clause failure

end EntryForm

theorem entryObject_eq_ok_iff {array : String} {item : Json} {entry : Json.Object} :
    entryObject array item = .ok entry ↔ item = .object entry := by
  cases item <;> simp [entryObject, Json.object?]

theorem entryObject_eq_error_iff {α : Type} (form : EntryForm α) {item : Json}
    {failure : ReadFailure} :
    entryObject form.array item = .error failure ↔ form.Violates item .object failure := by
  cases item <;> simp [entryObject, EntryForm.Violates, EntryForm.Lacks, Json.object?]

theorem PublicKey.ofEntry_eq_ok_iff {item : Json} {key : PublicKey} :
    PublicKey.ofEntry item = .ok key ↔ ∃ entry, item = .object entry ∧ form.Holds entry key := by
  simp only [PublicKey.ofEntry, bind_eq_ok_iff, entryObject_eq_ok_iff, Json.Object.uri_eq_ok_iff,
    Json.Object.suite_eq_ok_iff Suite.ofKeyType?_eq_some_iff, Prod.exists,
    Json.Object.material_eq_ok_iff, Except.ok.injEq]
  refine exists_congr fun entry => and_congr_right fun _ => ?_
  constructor
  · rintro ⟨id, hid, suite, hsuite, controller, hcontroller, encoding, bytes, hmaterial, rfl⟩
    exact ⟨hid, hsuite, fun _ h => Option.some.inj h ▸ hcontroller, hmaterial⟩
  · intro h
    exact ⟨_, h.id, _, h.type, _, h.controller _ rfl, _, _, h.material, rfl⟩

theorem Signature.ofEntry_eq_ok_iff {item : Json} {s : Signature} :
    Signature.ofEntry item = .ok s ↔ ∃ entry, item = .object entry ∧ form.Holds entry s := by
  simp only [Signature.ofEntry, bind_eq_ok_iff, entryObject_eq_ok_iff, Json.Object.uri_eq_ok_iff,
    Json.Object.suite_eq_ok_iff Suite.ofSignatureType?_eq_some_iff, Prod.exists,
    Json.Object.material_eq_ok_iff, Except.ok.injEq]
  refine exists_congr fun entry => and_congr_right fun _ => ?_
  constructor
  · rintro ⟨target, htarget, suite, hsuite, encoding, bytes, hmaterial, rfl⟩
    exact ⟨htarget, hsuite, nofun, hmaterial⟩
  · intro h
    exact ⟨_, h.id, _, h.type, _, _, h.material, rfl⟩

/-- Material is asked for, and then that it can be decoded. -/
theorem EntryForm.material_reports {α : Type} {form : EntryForm α} {entry : Json.Object} :
    Reports (form.Lacks entry) [.presence, .decoding] (entry.material form.fields) := by
  refine .cons (fun _ => Material.resolve_eq_error_iff) fun material hmaterial =>
    .cons (fun failure => ?decoding) fun _ _ => .ok _
  case decoding =>
    obtain ⟨hheld, hvalue⟩ :=
      Material.resolve_eq_ok_iff_held.1 (mapError_eq_ok_iff.1 hmaterial)
    simp only [Material.decode, mapError_eq_error_iff]
    constructor
    · rintro ⟨_, ⟨fault, hfault, rfl⟩, rfl⟩
      exact .undecodable hheld hvalue hfault
    · rintro ⟨hheld', hvalue', hfault⟩
      obtain rfl := List.singleton_inj.1 (hheld.symm.trans hheld')
      obtain rfl := Option.some.inj (hvalue.symm.trans hvalue')
      exact ⟨_, ⟨_, hfault, rfl⟩, rfl⟩

/-- A key is read up to the first clause that its entry violates. -/
theorem PublicKey.ofEntry_reports (item : Json) :
    Reports (form.Violates item) form.clauses (PublicKey.ofEntry item) := by
  refine .cons (fun _ => entryObject_eq_error_iff form) fun entry hentry => ?_
  obtain rfl := entryObject_eq_ok_iff.1 hentry
  refine .cons (fun _ => Json.Object.uri_eq_error_iff) fun id _ => ?_
  refine .cons (fun _ => Json.Object.suite_eq_error_iff Suite.ofKeyType?_eq_some_iff) fun suite _ => ?_
  refine .cons (fun _ => Json.Object.uri_eq_error_iff) fun controller _ => ?_
  exact EntryForm.material_reports.append fun _ _ => .ok _

/-- A signature is read up to the first clause that its entry violates. -/
theorem Signature.ofEntry_reports (item : Json) :
    Reports (form.Violates item) form.clauses (Signature.ofEntry item) := by
  refine .cons (fun _ => entryObject_eq_error_iff form) fun entry hentry => ?_
  obtain rfl := entryObject_eq_ok_iff.1 hentry
  refine .cons (fun _ => Json.Object.uri_eq_error_iff) fun target _ => ?_
  refine .cons (fun _ => Json.Object.suite_eq_error_iff Suite.ofSignatureType?_eq_some_iff)
    fun suite _ => ?_
  exact EntryForm.material_reports.append fun _ _ => .ok _

/-! ## Lists of entries -/

/-- A list is read when each of its entries is. -/
theorem mapM_eq_ok_iff {ε α β : Type} {f : α → Except ε β} {xs : List α} {ys : List β} :
    xs.mapM f = .ok ys ↔ List.Forall₂ (fun x y => f x = .ok y) xs ys := by
  induction xs generalizing ys with
  | nil =>
    rw [List.mapM_nil, List.forall₂_nil_left_iff]
    exact ⟨fun h => (Except.ok.inj h).symm, fun h => h ▸ rfl⟩
  | cons x xs ih =>
    rw [List.mapM_cons, bind_eq_ok_iff, List.forall₂_cons_left_iff]
    refine exists_congr fun y => ?_
    simp only [bind_eq_ok_iff, ih, pure, Except.pure, Except.ok.injEq]
    constructor
    · rintro ⟨hx, rest, hrest, rfl⟩
      exact ⟨rest, hx, hrest, rfl⟩
    · rintro ⟨rest, hx, hrest, rfl⟩
      exact ⟨hx, rest, hrest, rfl⟩

namespace EntryForm

variable {α : Type} {form : EntryForm α} {object object' : Json.Object}

/-- The result is what the object says in the form's array: with all entries in order where each of them
holds what is asked, and else the failure of the first bad one, or of what stands for no array. -/
structure Reads (form : EntryForm α) (object : Json.Object) (result : Except ReadFailure (List α)) :
    Prop where
  succeeds : ∀ xs, result = .ok xs ↔ ∃ items, object.Lists form.array items ∧
    List.Forall₂ (fun item x => ∃ entry, item = .object entry ∧ form.Holds entry x) items xs
  fails : ∀ failure, result = .error failure ↔
    ((∀ items, ¬ object.Lists form.array items) ∧ .missingField form.array = failure) ∨
    ∃ items, object.Lists form.array items ∧
      Earliest (fun item => Earliest (form.Violates item) form.clauses) items failure

/-- A reader of entries that reads them by the form reads lists of them by the form. -/
theorem reads_mapM {ofEntry : Json → Except ReadFailure α}
    (hok : ∀ {item x}, ofEntry item = .ok x ↔ ∃ entry, item = .object entry ∧ form.Holds entry x)
    (hreports : ∀ item, Reports (form.Violates item) form.clauses (ofEntry item)) :
    form.Reads object (object.optionalArray form.array >>= List.mapM ofEntry) where
  succeeds := fun xs => by
    simp only [bind_eq_ok_iff, Json.Object.optionalArray_eq_ok_iff, mapM_eq_ok_iff, hok]
  fails := fun failure => by
    have hentries (items : List Json) : items.mapM ofEntry = .error failure ↔
        Earliest (fun item => Earliest (form.Violates item) form.clauses) items failure := by
      have hfails : (fun item failure => ofEntry item = .error failure) =
          fun item => Earliest (form.Violates item) form.clauses := by
        funext item failure
        exact propext (hreports item failure)
      rw [← hfails]
      exact mapM_reports ofEntry items failure
    simp only [bind_eq_error_iff, Json.Object.optionalArray_eq_error_iff,
      Json.Object.optionalArray_eq_ok_iff, hentries]

/-! ## What is not read -/

/-- The entries agree in all that is read of them; a field of material that is null counts as absent. -/
structure Agree (form : EntryForm α) (entry entry' : Json.Object) : Prop where
  id : entry.get? "id" = entry'.get? "id"
  type : entry.get? "type" = entry'.get? "type"
  controller : form.controller? ≠ none → entry.get? "controller" = entry'.get? "controller"
  material : ∀ field ∈ form.fields, entry.given? field.name = entry'.given? field.name

/-- Both items are entries that agree, or neither is an object. -/
inductive Alike (form : EntryForm α) : Json → Json → Prop
  | entries {entry entry' : Json.Object} (h : form.Agree entry entry') :
    Alike form (.object entry) (.object entry')
  | others {item item' : Json} (h : item.object? = none) (h' : item'.object? = none) :
    Alike form item item'

/-- The objects list items that are alike, or neither lists any. -/
inductive AlikeIn (form : EntryForm α) (object object' : Json.Object) : Prop
  | listed {items items' : List Json} (h : object.Lists form.array items)
    (h' : object'.Lists form.array items') (halike : List.Forall₂ form.Alike items items')
  | unlisted (h : ∀ items, ¬ object.Lists form.array items)
    (h' : ∀ items, ¬ object'.Lists form.array items)

theorem Agree.uri_eq {entry entry' : Json.Object} {name : String}
    (h : entry.get? name = entry'.get? name) : entry.uri name = entry'.uri name := by
  rw [Json.Object.uri, Json.Object.uri, Json.Object.string, Json.Object.string, h]

theorem Agree.suite_eq {entry entry' : Json.Object} (h : form.Agree entry entry')
    (ofType? : String → Option Suite) : entry.suite ofType? = entry'.suite ofType? := by
  rw [Json.Object.suite, Json.Object.suite, Json.Object.string, Json.Object.string, h.type]

theorem Agree.material_eq {entry entry' : Json.Object} (h : form.Agree entry entry') :
    entry.material form.fields = entry'.material form.fields := by
  have hpresent : Material.present entry form.fields = Material.present entry' form.fields := by
    refine List.filterMap_congr fun field hfield => ?_
    rw [Material.inField?_eq, Material.inField?_eq, h.material field hfield]
  rw [Json.Object.material, Json.Object.material, Material.resolve, Material.resolve, hpresent]

/-- A reader that tells no items apart that are alike tells no objects apart that are. -/
theorem AlikeIn.mapM_eq {ofEntry : Json → Except ReadFailure α}
    (hentry : ∀ item item', form.Alike item item' → ofEntry item = ofEntry item')
    (h : form.AlikeIn object object') :
    (object.optionalArray form.array >>= List.mapM ofEntry) =
      object'.optionalArray form.array >>= List.mapM ofEntry := by
  cases h with
  | listed hlists hlists' halike =>
    rw [Json.Object.optionalArray_eq_ok_iff.2 hlists, Json.Object.optionalArray_eq_ok_iff.2 hlists',
      ok_bind, ok_bind]
    clear hlists hlists'
    induction halike with
    | nil => rfl
    | cons hitem _ ih => rw [List.mapM_cons, List.mapM_cons, hentry _ _ hitem, ih]
  | unlisted hlists hlists' =>
    rw [Json.Object.optionalArray_eq_error_iff.2 ⟨hlists, rfl⟩,
      Json.Object.optionalArray_eq_error_iff.2 ⟨hlists', rfl⟩]

end EntryForm

theorem PublicKey.ofEntry_eq_of_alike (item item' : Json) (h : form.Alike item item') :
    PublicKey.ofEntry item = PublicKey.ofEntry item' := by
  cases h with
  | entries h =>
    have hmaterial := h.material_eq
    simp only [form] at hmaterial
    simp only [PublicKey.ofEntry, entryObject, Json.object?_object, ok_bind,
      EntryForm.Agree.uri_eq h.id, h.suite_eq, EntryForm.Agree.uri_eq (h.controller nofun), hmaterial]
  | others h h' => simp only [PublicKey.ofEntry, entryObject, h, h']

theorem Signature.ofEntry_eq_of_alike (item item' : Json) (h : form.Alike item item') :
    Signature.ofEntry item = Signature.ofEntry item' := by
  cases h with
  | entries h =>
    have hmaterial := h.material_eq
    simp only [form] at hmaterial
    simp only [Signature.ofEntry, entryObject, Json.object?_object, ok_bind,
      EntryForm.Agree.uri_eq h.id, h.suite_eq, hmaterial]
  | others h h' => simp only [Signature.ofEntry, entryObject, h, h']

/-- The keys of a document and the signatures of an instruction are read by their forms, all or none, and
nothing that is not asked for changes what is read. -/
theorem entries_read_by_form (d d' : Document) (i i' : Instruction) :
    (PublicKey.form.Reads d.submission.object d.publicKeys ∧
      (PublicKey.form.AlikeIn d.submission.object d'.submission.object →
        d.publicKeys = d'.publicKeys)) ∧
    (Signature.form.Reads i.submission.object i.signatures ∧
      (Signature.form.AlikeIn i.submission.object i'.submission.object →
        i.signatures = i'.signatures)) :=
  ⟨⟨EntryForm.reads_mapM PublicKey.ofEntry_eq_ok_iff PublicKey.ofEntry_reports,
      fun h => h.mapM_eq PublicKey.ofEntry_eq_of_alike⟩,
    EntryForm.reads_mapM Signature.ofEntry_eq_ok_iff Signature.ofEntry_reports,
      fun h => h.mapM_eq Signature.ofEntry_eq_of_alike⟩

/-! ## A key among notes

One key with just the members that are read, and among others, with a null for another encoding. -/

namespace Document

def plainText : String :=
  "\x7b\"publicKey\":[\x7b\"id\":\"did:a#k\",\"type\":\"Ed25519VerificationKey2018\","
    ++ "\"controller\":\"did:a\",\"publicKeyHex\":\"00ff\"\x7d]\x7d"

def annotatedText : String :=
  "\x7b\"notes\":[],\"publicKey\":[\x7b\"id\":\"did:a#k\",\"note\":\"old\",\"publicKeyBase58\":null,"
    ++ "\"type\":\"Ed25519VerificationKey2018\",\"controller\":\"did:a\",\"publicKeyHex\":\"00ff\"\x7d]\x7d"

def plain : Document where
  submission.text := plainText
  submission.object :=
    [("publicKey", .array
       [.object
         [("controller", .text "did:a"), ("id", .text "did:a#k"), ("publicKeyHex", .text "00ff"),
          ("type", .text "Ed25519VerificationKey2018")]])]

def annotated : Document where
  submission.text := annotatedText
  submission.object :=
    [("notes", .array []),
     ("publicKey", .array
       [.object
         [("controller", .text "did:a"), ("id", .text "did:a#k"), ("note", .text "old"),
          ("publicKeyBase58", .null), ("publicKeyHex", .text "00ff"),
          ("type", .text "Ed25519VerificationKey2018")]])]

set_option maxRecDepth 20000 in
theorem parse_plain : parse plainText = .ok plain := by
  have htext : Json.read plainText = .ok (.object plain.submission.object) := by
    unfold Json.read plainText
    simp only [String.toList_append]
    repeat rw [String.toList_ofList]
    rfl
  exact parse_of_read htext

set_option maxRecDepth 20000 in
theorem parse_annotated : parse annotatedText = .ok annotated := by
  have htext : Json.read annotatedText = .ok (.object annotated.submission.object) := by
    unfold Json.read annotatedText
    simp only [String.toList_append]
    repeat rw [String.toList_ofList]
    rfl
  exact parse_of_read htext

theorem annotated_alike :
    PublicKey.form.AlikeIn plain.submission.object annotated.submission.object := by
  refine .listed (.array rfl) (.array rfl) (.cons (.entries ⟨rfl, rfl, fun _ => rfl, ?_⟩) .nil)
  simp only [PublicKey.form, Material.keyFields, List.forall_mem_cons]
  exact ⟨rfl, rfl, rfl, rfl, rfl, rfl, List.forall_mem_nil _⟩

/-- The notes and the null are passed over, and so is a null in place of the signatures. -/
theorem annotated_read_as_plain :
    (parse plainText = .ok plain ∧ parse annotatedText = .ok annotated ∧
      PublicKey.form.AlikeIn plain.submission.object annotated.submission.object) ∧
    annotated.publicKeys = .ok
      [⟨⟨"did", none, .verbatim "a", none, some "k"⟩, .ed25519, ⟨"did", none, .verbatim "a", none, none⟩,
        .hex, [0, 255]⟩] ∧
    Instruction.signatures ⟨⟨"\x7b\"signatures\":null\x7d", [("signatures", .null)]⟩⟩ = .ok [] := by
  obtain ⟨⟨-, hkeys⟩, -, hsignatures⟩ := entries_read_by_form plain annotated
    ⟨⟨"\x7b\x7d", []⟩⟩ ⟨⟨"\x7b\"signatures\":null\x7d", [("signatures", .null)]⟩⟩
  have hplain : plain.publicKeys = .ok
      [⟨⟨"did", none, .verbatim "a", none, some "k"⟩, .ed25519, ⟨"did", none, .verbatim "a", none, none⟩,
        .hex, [0, 255]⟩] := toOption_eq_some_iff.1 (by decide +kernel)
  refine ⟨⟨parse_plain, parse_annotated, annotated_alike⟩, hkeys annotated_alike ▸ hplain, ?_⟩
  rw [← hsignatures (.listed (.absent rfl) (.null rfl) .nil)]
  rfl

end Document

end DidAdmission
