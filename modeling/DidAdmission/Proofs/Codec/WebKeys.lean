-- SUMMARY: A web key is read alike from a text and from the object that the text stands for.
import DidAdmission.Proofs.Json.Members
import DidAdmission.Proofs.Json.Skimming
import DidAdmission.Proofs.Reading.Entries

/-!
# Web keys and their carriers

A web key is carried by an object or by a text of one. The two are read by different readers, one in
the order of the keys and one in the order of writing, but both depend on nothing but what is given
for the six members (`Jwk.Describes`): a member that is not there and one that is null count alike,
except that there must be a type.
-/

namespace DidAdmission

namespace Jwk

open Json (Object)

variable {jwk : Jwk} {m : Member} {value : Json}

/-! ## Members -/

theorem Member.ofName?_eq_some_iff {name : String} : Member.ofName? name = some m ↔ m.name = name := by
  constructor
  · intro h
    have hsame := List.find?_some h
    exact eq_of_beq hsame
  · rintro rfl
    cases m <;> decide

theorem Member.name_inj {m' : Member} : m.name = m'.name ↔ m = m' := by
  refine ⟨fun h => ?_, congrArg _⟩
  have hfound := Member.ofName?_eq_some_iff.2 h
  rw [Member.ofName?_eq_some_iff.2 rfl] at hfound
  exact (Option.some.inj hfound).symm

/-- The text of a member of a key; every key has a type. -/
def text? (jwk : Jwk) : Member → Option String
  | .kty => some jwk.kty
  | .crv => jwk.crv
  | .x => jwk.x
  | .y => jwk.y
  | .n => jwk.n
  | .e => jwk.e

/-- The values given for the members are the texts of the key. -/
def Describes (object : Object) (jwk : Jwk) : Prop :=
  ∀ m : Member, object.given? m.name = (jwk.text? m).map Json.text

/-- No member is written twice. -/
def Once (object : Object) : Prop :=
  ∀ m : Member, object.keys.count m.name ≤ 1

theorem Once.tail {m : String × Json} {object : Object} (h : Once (m :: object)) : Once object :=
  fun m' => List.count_le_count_cons.trans (h m')

theorem Once.head {object : Object} (h : Once ((m.name, value) :: object)) :
    object.keys.count m.name = 0 := by
  have hcount := h m
  simp only [Object.keys, List.map_cons, List.count_cons_self] at hcount ⊢
  omega

/-! ## Drafts -/

section Drafts

variable {draft : Draft} {object : Object} {texts : Member → Option String}

theorem finish_eq_ok_iff : draft.finish = .ok jwk ↔ ∀ m, draft.text? m = jwk.text? m := by
  unfold Draft.finish
  constructor
  · intro h
    split at h
    · cases h
    · next hkty =>
      cases h
      rintro (_ | _ | _ | _ | _ | _)
      · exact hkty
      all_goals rfl
  · intro h
    simp only [h]
    rfl

/-- What is in a draft after the members of an object: the text read from a member that is there, and
what was in the draft before for any other. -/
def Settles (draft : Draft) (object : Object) (texts : Member → Option String) : Prop :=
  ∀ m : Member,
    match object.get? m.name with
    | none => draft.text? m = texts m
    | some value => memberValue m value = .ok (texts m)

theorem settles_cons_unknown {key : String} (hkey : Member.ofName? key = none) :
    Settles draft ((key, value) :: object) texts ↔ Settles draft object texts := by
  refine forall_congr' fun m => ?_
  have hne : m.name ≠ key := fun h => by
    rw [Member.ofName?_eq_some_iff.2 h] at hkey
    cases hkey
  rw [Object.get?_cons, if_neg hne]

theorem settles_cons_member {text : Option String} (honce : object.keys.count m.name = 0)
    (hvalue : memberValue m value = .ok text) :
    Settles draft ((m.name, value) :: object) texts ↔ Settles ((m, text) :: draft) object texts := by
  refine forall_congr' fun m' => ?_
  rw [Object.get?_cons]
  by_cases hm : m' = m
  · subst hm
    rw [if_pos rfl, Object.get?_eq_none honce]
    simp [hvalue, Draft.text?]
  · rw [if_neg (mt Member.name_inj.1 hm)]
    have hold : Draft.text? ((m, text) :: draft) m' = draft.text? m' := by
      simp [Draft.text?, List.lookup_cons, beq_false_of_ne hm]
    rw [hold]

/-- Members that come once are read into a draft just as they settle it. -/
theorem exists_ofMembers_iff (honce : Once object) :
    (∃ found, ofMembers draft object = .ok found ∧ ∀ m, found.text? m = texts m) ↔
      Settles draft object texts := by
  induction object generalizing draft with
  | nil => simp [ofMembers, Settles]
  | cons member object ih =>
    obtain ⟨key, value⟩ := member
    rw [ofMembers]
    cases hkey : Member.ofName? key with
    | none => rw [settles_cons_unknown hkey, ← ih honce.tail]
    | some m =>
      obtain rfl := Member.ofName?_eq_some_iff.1 hkey
      cases hvalue : memberValue m value with
      | error fault =>
        refine iff_of_false (by simp [hvalue]) fun h => ?_
        have hm := h m
        rw [Object.get?_cons, if_pos rfl] at hm
        simp [hvalue] at hm
      | ok text =>
        rw [settles_cons_member honce.head hvalue, ← ih honce.tail]
        simp only [hvalue]

/-- A key is made of the members of an object just if it is the key that they describe. -/
theorem finish_ofMembers_iff (honce : Once object) :
    (ofMembers [] object >>= Draft.finish) = .ok jwk ↔ Describes object jwk := by
  simp only [bind_eq_ok_iff, finish_eq_ok_iff]
  rw [exists_ofMembers_iff honce]
  refine forall_congr' fun m => ?_
  rw [Object.given?]
  cases object.get? m.name with
  | none =>
    cases jwk.text? m <;> simp [Draft.text?]
  | some value =>
    cases value with
    | null =>
      -- A type that is null is refused at once; a key has one, so nothing describes it either.
      cases m
      all_goals simp [memberValue, Json.isNull, Option.filter, text?, eq_comm]
    | _ =>
      cases jwk.text? m
      all_goals simp [memberValue, Json.isNull]

end Drafts

/-! ## From a text -/

section Shapes

variable {depth : Nat} {s rest rest' : List Char} {expected : String}

theorem textShape_eq_ok_iff {t : String} (h : Json.readValue depth s = .ok (value, rest)) :
    Json.textShape expected s = .ok (t, rest') ↔ value = .text t ∧ rest = rest' := by
  obtain ⟨nested, c, tail, hvalue, hs, hlead⟩ := Json.exists_start_of_readValue h
  by_cases hquote : c = '"'
  · subst hquote
    obtain ⟨t', rfl, hread⟩ := Json.text_of_readValueWith hs hvalue
    simp [Json.textShape, Json.atValue, hs, Json.Reader.shape, hread]
  · refine iff_of_false (by simp [Json.textShape, Json.atValue, hs, hquote]) ?_
    rintro ⟨rfl, -⟩
    exact hquote hlead

theorem optionalTextShape_eq_ok_iff {text : Option String}
    (h : Json.readValue depth s = .ok (value, rest)) :
    Json.optionalTextShape expected s = .ok (text, rest') ↔
      ((value = .null ∧ text = none) ∨ ∃ t, value = .text t ∧ text = some t) ∧ rest = rest' := by
  obtain ⟨nested, c, tail, hread, hs, hlead⟩ := Json.exists_start_of_readValue h
  unfold Json.optionalTextShape
  split
  · next tail hs =>
    obtain ⟨rfl, hword⟩ := Json.null_of_readValueWith hs hread
    simp [hword, Except.map, eq_comm]
  · next hnull =>
    have hvalue : value ≠ .null := by
      rintro rfl
      obtain rfl : c = 'n' := hlead
      exact hnull tail hs
    simp only [map_eq_ok_iff, Prod.exists, textShape_eq_ok_iff h, Prod.mk.injEq, hvalue, false_and,
      false_or]
    constructor
    · rintro ⟨t, _, ⟨hv, rfl⟩, rfl, rfl⟩
      exact ⟨⟨t, hv, rfl⟩, rfl⟩
    · rintro ⟨⟨t, hv, rfl⟩, rfl⟩
      exact ⟨t, rest, ⟨hv, rfl⟩, rfl, rfl⟩

theorem memberShape_eq_ok_iff {text : Option String}
    (h : Json.readValue depth s = .ok (value, rest)) :
    memberShape m s = .ok (text, rest') ↔ memberValue m value = .ok text ∧ rest = rest' := by
  unfold memberShape
  split_ifs with hm
  · subst hm
    simp only [map_eq_ok_iff, Prod.exists, textShape_eq_ok_iff h]
    cases value <;> simp [memberValue]
  · rw [optionalTextShape_eq_ok_iff h]
    cases value <;> simp [memberValue, hm, eq_comm]

end Shapes

/-- What a member makes of a draft that takes it: one that nobody asks for is passed over. -/
def Draft.take? (draft : Draft) (member : String × Json) : Option Draft :=
  match Member.ofName? member.1 with
  | none => some draft
  | some m =>
    if draft.has m then none
    else (memberValue m member.2).toOption.map fun text => (m, text) :: draft

theorem readMember_follows (depth : Nat) (member : String × Json) :
    Json.FollowsMember depth readMember Draft.take? member := by
  intro draft s start rest hcolon hvalue
  unfold readMember Draft.take?
  cases Member.ofName? member.1 with
  | none =>
    simp only [hcolon, Json.skimShape, Json.skim_of_readValue hvalue, mapError_ok, ok_bind]
    rfl
  | some m =>
    simp only [hcolon, mapError_ok, ok_bind]
    split_ifs with hdraft
    · rfl
    · cases htext : memberValue m member.2 with
      | ok text =>
        rw [(memberShape_eq_ok_iff hvalue).2 ⟨htext, rfl⟩]
        rfl
      | error fault =>
        cases hshape : memberShape m start with
        | error fault' => rfl
        | ok found =>
          obtain ⟨htext', -⟩ := (memberShape_eq_ok_iff hvalue).1 hshape
          rw [htext] at htext'
          cases htext'

/-- No member of the draft is still to come. -/
def Draft.Before (draft : Draft) (object : Object) : Prop :=
  ∀ m, draft.has m = true → object.keys.count m.name = 0

theorem Draft.Before.tail {draft : Draft} {member : String × Json} {object : Object}
    (h : draft.Before (member :: object)) : draft.Before object := by
  intro m hm
  have hcount := h m hm
  simp only [Object.keys, List.map_cons, List.count_cons] at hcount ⊢
  omega

theorem Draft.Before.has_eq_false {draft : Draft} {object : Object}
    (h : draft.Before ((m.name, value) :: object)) : draft.has m = false := by
  refine Bool.eq_false_iff.2 fun hm => ?_
  have hcount := h m hm
  simp [Object.keys] at hcount

theorem Draft.Before.cons {draft : Draft} {object : Object} {text : Option String}
    (h : draft.Before object) (hm : object.keys.count m.name = 0) :
    Draft.Before ((m, text) :: draft) object := by
  intro m' hm'
  rw [Draft.has, List.any_cons, Bool.or_eq_true] at hm'
  rcases hm' with hsame | hold
  · rwa [← eq_of_beq hsame]
  · exact h m' hold

/-- If no member comes twice, then taking them one by one is putting them into the draft. -/
theorem foldlM_take?_eq_some_iff {members : Object} {draft draft' : Draft} (honce : Once members)
    (hbefore : draft.Before members) :
    members.foldlM Draft.take? draft = some draft' ↔ ofMembers draft members = .ok draft' := by
  induction members generalizing draft with
  | nil => simp [ofMembers]
  | cons member members ih =>
    obtain ⟨key, value⟩ := member
    rw [List.foldlM_cons, ofMembers, Draft.take?]
    cases hname : Member.ofName? key with
    | none => exact ih honce.tail hbefore.tail
    | some m =>
      obtain rfl := Member.ofName?_eq_some_iff.1 hname
      simp only [hbefore.has_eq_false]
      cases memberValue m value with
      | error fault => simp [Except.toOption]
      | ok text => exact ih honce.tail (hbefore.tail.cons honce.head)

theorem describes_ofMembers_iff {members : Object} (honce : Once members) :
    Describes (Object.ofMembers members) jwk ↔ Describes members jwk := by
  refine forall_congr' fun m => ?_
  rw [Object.given?, Object.given?, Object.get?_ofMembers (honce m)]

theorem ofText_eq_ok_iff {t : String} {v : Object} (hread : Json.read t = .ok (.object v))
    (honce : Once (Json.membersWritten t)) : ofText t = .ok jwk ↔ Describes v jwk := by
  obtain ⟨tail, rest, hs, hend, rfl, hfollows⟩ := Json.exists_follows_of_read hread
  have hnone : Draft.Before [] (Json.membersWritten t) := nofun
  have hfold : ∀ draft rest',
      Json.foldMembers .malformed readMember (tail.length + 1) true [] tail = .ok (draft, rest') ↔
        ofMembers [] (Json.membersWritten t) = .ok draft ∧ rest = rest' := by
    intro draft rest'
    rw [← toOption_eq_some_iff, hfollows Json.Mismatch.malformed (fun m _ => readMember_follows _ m) []]
    simp [foldlM_take?_eq_some_iff honce hnone]
  rw [describes_ofMembers_iff honce, ← finish_ofMembers_iff honce]
  simp only [ofText, shape, Json.atValue, hs, if_true, bind_eq_ok_iff, Prod.exists, hfold,
    mapError_eq_ok_iff, Except.ok.injEq, Prod.mk.injEq]
  constructor
  · rintro ⟨_, _, ⟨draft, _, ⟨hdraft, rfl⟩, jwk, hfinish, rfl, rfl⟩, -, -, rfl⟩
    exact ⟨draft, hdraft, hfinish⟩
  · rintro ⟨draft, hdraft, hfinish⟩
    exact ⟨jwk, rest, ⟨draft, rest, ⟨hdraft, rfl⟩, jwk, hfinish, rfl, rfl⟩, (), hend, rfl⟩

theorem ofValue_object_eq_ok_iff {object : Object} (honce : Once object) :
    ofValue (.object object) = .ok jwk ↔ Describes object jwk :=
  finish_ofMembers_iff honce

end Jwk

/-! ## Carriers -/

namespace Json

theorem Object.Sorted.once {object : Object} (h : object.Sorted) : Jwk.Once object :=
  fun m => h.count_keys_le_one m.name

theorem once_of_read {t : String} {v : Object} (h : read t = .ok (.object v)) : Jwk.Once v := by
  obtain ⟨-, -, -, -, -, rfl⟩ := exists_members_of_read h
  exact (Object.sorted_ofMembers _).once

end Json

namespace Encoding

variable {t t' : String} {v v' : Json.Object} {b : Bytes}

theorem decodeValue_jwk_object (honce : Jwk.Once v) :
    jwk.decodeValue (.object v) = .ok b ↔ ∃ key, Jwk.Describes v key ∧ key.keyBytes = .ok b := by
  simp only [decodeValue, Jwk.decodeValue, mapError_eq_ok_iff, bind_eq_ok_iff,
    Jwk.ofValue_object_eq_ok_iff honce]

theorem decodeValue_jwk_text (hread : Json.read t = .ok (.object v))
    (honce : Jwk.Once (Json.membersWritten t)) :
    jwk.decodeValue (.text t) = .ok b ↔ ∃ key, Jwk.Describes v key ∧ key.keyBytes = .ok b := by
  simp only [decodeValue, Jwk.decodeValue, mapError_eq_ok_iff, bind_eq_ok_iff,
    Jwk.ofText_eq_ok_iff hread honce]

end Encoding

/-! ## Entries -/

namespace Json.Object

variable {entry : Json.Object} {fields : List MaterialField} {key : String} {value value' : Json}

theorem given?_insert (hvalue : value.isNull = false) (name : String) :
    (entry.insert key value).given? name = if name = key then some value else entry.given? name := by
  rw [given?, get?_insert]
  split_ifs
  · simp [Option.filter, hvalue]
  · rfl

theorem held_insert (hvalue : value.isNull = false) (hvalue' : value'.isNull = false) :
    Material.held (entry.insert key value) fields = Material.held (entry.insert key value') fields := by
  refine List.filter_congr fun field _ => ?_
  rw [given?_insert hvalue, given?_insert hvalue']
  split_ifs
  all_goals rfl

/-- What a field is set to matters only by the bytes that it is decoded to. -/
theorem material_insert (hvalue : value.isNull = false) (hvalue' : value'.isNull = false)
    (hbytes : ∀ field ∈ fields, field.name = key → ∀ b,
      field.encoding.decodeValue value = .ok b → field.encoding.decodeValue value' = .ok b)
    {found : Encoding × Bytes} (h : (entry.insert key value).material fields = .ok found) :
    (entry.insert key value').material fields = .ok found := by
  obtain ⟨encoding, b⟩ := found
  rw [material_eq_ok_iff] at h ⊢
  obtain ⟨field, carried, hheld, hgiven, rfl, hdecode⟩ := h
  have hmem : field ∈ fields := (List.mem_filter.1 (hheld ▸ List.mem_singleton_self field)).1
  rw [held_insert hvalue hvalue'] at hheld
  rw [given?_insert hvalue] at hgiven
  by_cases hname : field.name = key
  · rw [if_pos hname] at hgiven
    cases hgiven
    exact ⟨field, value', hheld, by rw [given?_insert hvalue', if_pos hname], rfl,
      hbytes field hmem hname b hdecode⟩
  · rw [if_neg hname] at hgiven
    exact ⟨field, carried, hheld, by rw [given?_insert hvalue', if_neg hname, hgiven], rfl, hdecode⟩

end Json.Object

theorem Material.encoding_of_webKeyField {field : MaterialField} (h : field ∈ keyFields)
    (hname : field.name = "publicKeyJwk") : field.encoding = .jwk := by
  simp only [keyFields, List.mem_cons, List.not_mem_nil, or_false] at h
  rcases h with rfl | rfl | rfl | rfl | rfl | rfl
  case inr.inr.inr.inr.inl => rfl
  all_goals exact absurd hname (by decide)

theorem Json.Object.material_webKey_iff {entry : Json.Object} {value value' : Json}
    (hvalue : value.isNull = false) (hvalue' : value'.isNull = false)
    (hbytes : ∀ b, Encoding.jwk.decodeValue value = .ok b ↔ Encoding.jwk.decodeValue value' = .ok b)
    (found : Encoding × Bytes) :
    (entry.insert "publicKeyJwk" value).material Material.keyFields = .ok found ↔
      (entry.insert "publicKeyJwk" value').material Material.keyFields = .ok found := by
  constructor
  · refine material_insert hvalue hvalue' fun field hfield hname b => ?_
    rw [Material.encoding_of_webKeyField hfield hname]
    exact (hbytes b).1
  · refine material_insert hvalue' hvalue fun field hfield hname b => ?_
    rw [Material.encoding_of_webKeyField hfield hname]
    exact (hbytes b).2

/-- A web key has the bytes of the key that its members describe, or none, as an object and as a text of
it alike, and whatever else the text has: the order, the members nobody asks for, and nulls make no
difference. -/
theorem web_key_carriers_agree (entry : Json.Object) (t : String) (v : Json.Object)
    (hread : Json.read t = .ok (.object v)) (honce : Jwk.Once (Json.membersWritten t)) :
    (∀ b, Encoding.jwk.decodeValue (.object v) = .ok b ↔
      ∃ key, Jwk.Describes v key ∧ key.keyBytes = .ok b) ∧
    (∀ found,
      (entry.insert "publicKeyJwk" (.object v)).material Material.keyFields = .ok found ↔
        (entry.insert "publicKeyJwk" (.text t)).material Material.keyFields = .ok found) ∧
    ∀ (t' : String) (v' : Json.Object), Json.read t' = .ok (.object v') →
      Jwk.Once (Json.membersWritten t') →
      (∀ m : Jwk.Member, v.given? m.name = v'.given? m.name) →
      ∀ found,
        (entry.insert "publicKeyJwk" (.text t)).material Material.keyFields = .ok found ↔
          (entry.insert "publicKeyJwk" (.text t')).material Material.keyFields = .ok found := by
  have hobject (b : Bytes) : Encoding.jwk.decodeValue (.object v) = .ok b ↔
      ∃ key, Jwk.Describes v key ∧ key.keyBytes = .ok b :=
    Encoding.decodeValue_jwk_object (Json.once_of_read hread)
  refine ⟨hobject, ?agree, ?others⟩
  case agree =>
    refine Json.Object.material_webKey_iff rfl rfl fun b => ?_
    rw [hobject, Encoding.decodeValue_jwk_text hread honce]
  case others =>
    intro t' v' hread' honce' hsame
    refine Json.Object.material_webKey_iff rfl rfl fun b => ?_
    rw [Encoding.decodeValue_jwk_text hread honce, Encoding.decodeValue_jwk_text hread' honce']
    simp only [Jwk.Describes, hsame]

/-! ## A key among remarks

One key with just the members that are read, and in another order among others, with an escape in a
name and a null. -/

namespace Jwk

def plainText : String :=
  "\x7b\"kty\":\"OKP\",\"crv\":\"Ed25519\","
    ++ "\"x\":\"11qYAYKxCrfVS_7TyWQHOg7hcvPapiMlrwIaaPcHURo\"\x7d"

def annotatedText : String :=
  "\x7b \"x\":\"11qYAYKxCrfVS_7TyWQHOg7hcvPapiMlrwIaaPcHURo\",\"use\":[\x7b\"sig\":[-7,\"\\u00e9\"]\x7d],"
    ++ "\"k\\u0074y\":\"OKP\",\"y\":null,\"crv\":\"Ed25519\"\x7d"

def plain : Json.Object :=
  [("crv", .text "Ed25519"), ("kty", .text "OKP"),
   ("x", .text "11qYAYKxCrfVS_7TyWQHOg7hcvPapiMlrwIaaPcHURo")]

def annotated : Json.Object :=
  [("crv", .text "Ed25519"), ("kty", .text "OKP"),
   ("use", .array [.object [("sig", .array [.number (.integer (-7)), .text "é"])]]),
   ("x", .text "11qYAYKxCrfVS_7TyWQHOg7hcvPapiMlrwIaaPcHURo"), ("y", .null)]

set_option maxRecDepth 20000 in
theorem read_plain : Json.read plainText = .ok (.object plain) := by
  unfold Json.read plainText
  simp only [String.toList_append]
  repeat rw [String.toList_ofList]
  rfl

set_option maxRecDepth 20000 in
theorem read_annotated : Json.read annotatedText = .ok (.object annotated) := by
  unfold Json.read annotatedText
  simp only [String.toList_append]
  repeat rw [String.toList_ofList]
  rfl

theorem once_plain : Once (Json.membersWritten plainText) := by
  have hkeys : Json.Object.keys (Json.membersWritten plainText) = ["kty", "crv", "x"] := by
    decide +kernel
  rintro (_ | _ | _ | _ | _ | _)
  all_goals
    rw [hkeys]
    decide

theorem once_annotated : Once (Json.membersWritten annotatedText) := by
  have hkeys : Json.Object.keys (Json.membersWritten annotatedText) =
      ["x", "use", "kty", "y", "crv"] := by
    decide +kernel
  rintro (_ | _ | _ | _ | _ | _)
  all_goals
    rw [hkeys]
    decide

theorem given?_annotated (m : Member) :
    Json.Object.given? plain m.name = Json.Object.given? annotated m.name := by
  cases m
  all_goals rfl

def plainBytes : Bytes :=
  [0xd7, 0x5a, 0x98, 0x01, 0x82, 0xb1, 0x0a, 0xb7, 0xd5, 0x4b, 0xfe, 0xd3, 0xc9, 0x64, 0x07, 0x3a, 0x0e,
    0xe1, 0x72, 0xf3, 0xda, 0xa6, 0x23, 0x25, 0xaf, 0x02, 0x1a, 0x68, 0xf7, 0x07, 0x51, 0x1a]

/-- Both carriers of both keys give the same bytes. -/
theorem annotated_carried_as_plain :
    ((Json.read plainText = .ok (.object plain) ∧ Once (Json.membersWritten plainText)) ∧
      (Json.read annotatedText = .ok (.object annotated) ∧ Once (Json.membersWritten annotatedText)) ∧
      ∀ m : Member, Json.Object.given? plain m.name = Json.Object.given? annotated m.name) ∧
    Json.Object.material [("publicKeyJwk", .object plain)] Material.keyFields = .ok (.jwk, plainBytes) ∧
    Json.Object.material [("publicKeyJwk", .text plainText)] Material.keyFields = .ok (.jwk, plainBytes) ∧
    Json.Object.material [("publicKeyJwk", .text annotatedText)] Material.keyFields =
      .ok (.jwk, plainBytes) := by
  obtain ⟨-, hcarriers, hothers⟩ := web_key_carriers_agree [] plainText plain read_plain once_plain
  have hobject : Json.Object.material [("publicKeyJwk", .object plain)] Material.keyFields =
      .ok (.jwk, plainBytes) := toOption_eq_some_iff.1 (by decide +kernel)
  have htext := (hcarriers (.jwk, plainBytes)).1 hobject
  have hannotated :=
    (hothers annotatedText annotated read_annotated once_annotated given?_annotated _).1 htext
  exact ⟨⟨⟨read_plain, once_plain⟩, ⟨read_annotated, once_annotated⟩, given?_annotated⟩,
    hobject, htext, hannotated⟩

end Jwk

end DidAdmission
