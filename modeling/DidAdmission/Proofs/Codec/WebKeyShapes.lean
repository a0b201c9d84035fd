-- SUMMARY: The shapes of a web key: an object, an array of its six items, or a text of one of these.
import DidAdmission.Proofs.Codec.NativeKeys
import DidAdmission.Proofs.Json.ObjectTexts

/-!
# Shapes of web keys

A web key is held by an object, and by a text of one that is passed over where it is not asked for. But it
is held as well by an array of its six members in order, null where a member is not there, and by a text
of such an array; and since a value that is a text is read once more, a text of either may be quoted.
-/

namespace DidAdmission

namespace Jwk

variable {key : Jwk} {m : Member} {ms : List Member} {value : Json} {values : List Json}
  {text : Option String} {texts : List (Option String)} {draft draft' : Draft} {s rest : List Char}
  {count : Nat}

/-! ## Items -/

/-- The item for a member with the given text. -/
def item : Option String → Json
  | some t => .text t
  | none => .null

/-- The items that stand for a key, in the order of its members. -/
def items (key : Jwk) : List Json :=
  members.map fun m => item (key.text? m)

/-- The texts may be those of the members: only the type must be there. -/
def Fits (ms : List Member) (texts : List (Option String)) : Prop :=
  List.Forall₂ (fun m text => m = .kty → text ≠ none) ms texts

theorem fits_members (key : Jwk) : Fits members (members.map key.text?) := by
  simp [Fits, members, text?]

theorem item_inj {text' : Option String} : item text = item text' ↔ text = text' := by
  cases text <;> cases text' <;> simp [item]

theorem memberValue_eq_ok_iff :
    memberValue m value = .ok text ↔ value = item text ∧ (m = .kty → text ≠ none) := by
  by_cases hm : m = .kty
  · cases text <;> cases value <;> simp [memberValue, item, hm]
  · cases text <;> cases value <;> simp [memberValue, item, hm]

/-- The items of members are taken one by one, each with a text that the member may have. -/
theorem ofItems_eq_ok_iff {left : List Json} : ofItems count draft ms values = .ok (draft', left) ↔
    ∃ texts, Fits ms texts ∧ values = texts.map item ++ left ∧
      draft' = (ms.zip texts).reverse ++ draft := by
  induction ms generalizing count draft values with
  | nil => simp [ofItems, Fits, eq_comm, and_comm]
  | cons m ms ih =>
    simp only [Fits, List.forall₂_cons_left_iff] at ih ⊢
    cases values with
    | nil =>
      refine iff_of_false (by simp [ofItems]) ?_
      rintro ⟨_, ⟨text, texts, -, -, rfl⟩, hvalues, -⟩
      cases hvalues
    | cons value values =>
      rw [ofItems]
      cases hvalue : memberValue m value with
      | error fault =>
        refine iff_of_false (by simp) ?_
        rintro ⟨_, ⟨text, texts, htext, -, rfl⟩, hvalues, -⟩
        rw [memberValue_eq_ok_iff.2 ⟨(List.cons.inj hvalues).1, htext⟩] at hvalue
        cases hvalue
      | ok text =>
        obtain ⟨rfl, htext⟩ := memberValue_eq_ok_iff.1 hvalue
        simp only [ih]
        constructor
        · rintro ⟨texts, hfits, rfl, rfl⟩
          exact ⟨_, ⟨text, texts, htext, hfits, rfl⟩, rfl, by simp⟩
        · rintro ⟨_, ⟨text', texts, -, hfits, rfl⟩, hvalues, rfl⟩
          obtain ⟨hsame, rfl⟩ := List.cons.inj hvalues
          obtain rfl := item_inj.1 hsame
          exact ⟨texts, hfits, rfl, by simp⟩

/-- A key is made of texts for all members just if they are its own. -/
theorem finish_zip_iff (h : Fits members texts) :
    Draft.finish ((members.zip texts).reverse ++ []) = .ok key ↔ texts = members.map key.text? := by
  simp only [Fits, members, List.forall₂_cons_left_iff, List.forall₂_nil_left_iff] at h
  obtain ⟨kty, _, -, ⟨crv, _, -, ⟨x, _, -, ⟨y, _, -, ⟨n, _, -, ⟨e, _, -, rfl, rfl⟩, rfl⟩, rfl⟩, rfl⟩,
    rfl⟩, rfl⟩ := h
  rw [finish_eq_ok_iff]
  constructor
  · intro h
    have htexts : [kty, crv, x, y, n, e] = members.map
        (Draft.text? ((members.zip [kty, crv, x, y, n, e]).reverse ++ [])) := rfl
    rw [htexts]
    exact List.map_congr_left fun m _ => h m
  · intro h
    simp only [members, List.map_cons, List.map_nil, List.cons.injEq, and_true] at h
    obtain ⟨rfl, rfl, rfl, rfl, rfl, rfl⟩ := h
    rintro (_ | _ | _ | _ | _ | _)
    all_goals rfl

theorem items_eq (key : Jwk) : key.items = (members.map key.text?).map item := by
  rw [items, List.map_map]
  rfl

/-- An array stands for a key just if its items are those of the key. -/
theorem ofValue_array_eq_ok_iff : ofValue (.array values) = .ok key ↔ values = key.items := by
  simp only [ofValue, bind_eq_ok_iff, Prod.exists, ofItems_eq_ok_iff]
  constructor
  · rintro ⟨_, left, ⟨texts, hfits, rfl, rfl⟩, jwk, hfinish, h⟩
    obtain rfl := (finish_zip_iff hfits).1 hfinish
    split_ifs at h with hleft
    cases h
    rw [List.isEmpty_iff.1 hleft, List.append_nil, items_eq]
  · rintro rfl
    refine ⟨_, [], ⟨members.map key.text?, fits_members key, ?_, rfl⟩, key,
      (finish_zip_iff (fits_members key)).2 rfl, if_pos rfl⟩
    rw [List.append_nil, items_eq]

/-! ## Items in a text -/

theorem readValue_of_textShape {t expected : String} (h : Json.textShape expected s = .ok (t, rest))
    (depth : Nat) : Json.readValue depth s = .ok (.text t, rest) ∧ rest.length < s.length := by
  obtain ⟨nested, hnested⟩ := Json.exists_readValueWith depth
  have hle := Json.length_skipSpace_le s
  cases hs : Json.skipSpace s with
  | nil => simp [Json.textShape, Json.atValue, hs] at h
  | cons c tail =>
    rw [hs, List.length_cons] at hle
    simp only [Json.textShape, Json.atValue, hs] at h
    split_ifs at h with hquote
    subst hquote
    have hread : Json.readString tail = .ok (t, rest) := mapError_eq_ok_iff.1 h
    have hlt := (Json.skipString_of_readString hread).2
    refine ⟨?_, by omega⟩
    simp [hnested, Json.readValueWith, hs, hread, Except.map]

theorem readValue_of_optionalTextShape {expected : String}
    (h : Json.optionalTextShape expected s = .ok (text, rest)) (depth : Nat) :
    Json.readValue depth s = .ok (item text, rest) ∧ rest.length < s.length := by
  unfold Json.optionalTextShape at h
  split at h
  · next tail hs =>
    obtain ⟨nested, hnested⟩ := Json.exists_readValueWith depth
    have hle := Json.length_skipSpace_le s
    obtain ⟨after, hword, hfound⟩ := map_eq_ok_iff.1 h
    cases hfound
    have hskip : Json.skipWord ['u', 'l', 'l'] tail = .ok rest := mapError_eq_ok_iff.1 hword
    have hshort := Json.length_le_of_skipWord hskip
    rw [hs, List.length_cons] at hle
    refine ⟨?_, by omega⟩
    simp [hnested, Json.readValueWith, hs, hskip, Except.map, item]
  · obtain ⟨⟨t, after⟩, htext, hfound⟩ := map_eq_ok_iff.1 h
    cases hfound
    exact readValue_of_textShape htext depth

/-- What is read for a member would be read as a value too. -/
theorem readValue_of_memberShape (h : memberShape m s = .ok (text, rest)) (depth : Nat) :
    Json.readValue depth s = .ok (item text, rest) ∧ rest.length < s.length ∧
      (m = .kty → text ≠ none) := by
  unfold memberShape at h
  split_ifs at h with hm
  · obtain ⟨⟨t, after⟩, htext, hfound⟩ := map_eq_ok_iff.1 h
    cases hfound
    obtain ⟨hread, hlt⟩ := readValue_of_textShape htext depth
    exact ⟨hread, hlt, nofun⟩
  · obtain ⟨hread, hlt⟩ := readValue_of_optionalTextShape h depth
    exact ⟨hread, hlt, fun hkty => absurd hkty hm⟩

theorem skipSpace_of_closeArray (h : Json.closeArray s = .ok rest) : Json.skipSpace s = ']' :: rest := by
  unfold Json.closeArray at h
  split at h
  case h_2 tail hs =>
    cases h
    exact hs
  case h_3 => split at h <;> cases h
  all_goals cases h

/-- How an array is read: item by item onto those before it. -/
def foldValues (depth count : Nat) (first : Bool) (before : List Json) (s : List Char) :
    Except Json.Fault (List Json × List Char) :=
  Json.foldItems id
    (fun values s => (Json.readValue depth s).map fun (v, rest) => (v :: values, rest))
    count first before s

theorem foldValues_succ {depth fuel : Nat} {first : Bool} {before : List Json} :
    foldValues depth (fuel + 1) first before s =
      match Json.nextItem first s with
      | .error fault => .error fault
      | .ok none => (Json.closeArray s).map (before, ·)
      | .ok (some start) =>
        Json.readValue depth start >>= fun found =>
          foldValues depth fuel false (found.1 :: before) found.2 := by
  rw [foldValues, Json.foldItems]
  cases hnext : Json.nextItem first s with
  | error fault => rfl
  | ok found =>
    cases found with
    | none => cases Json.closeArray s <;> rfl
    | some start =>
      simp only
      cases Json.readValue depth start <;> rfl

/-- Items that are read for members are read as the values of an array. -/
theorem foldValues_of_readItems {fuel : Nat} {after : List Char} (depth : Nat) (hfuel : s.length < fuel)
    (hitems : readItems count draft ms s = .ok (draft', after))
    (hclose : Json.closeArray after = .ok rest) :
    ∃ texts, Fits ms texts ∧ draft' = (ms.zip texts).reverse ++ draft ∧ ∀ before,
      foldValues depth fuel (count == 0) before s = .ok ((texts.map item).reverse ++ before, rest) := by
  induction ms generalizing fuel count draft s with
  | nil =>
    obtain ⟨rfl, rfl⟩ := Prod.mk.inj (Except.ok.inj hitems)
    obtain ⟨fuel, rfl⟩ := Nat.exists_eq_succ_of_ne_zero (Nat.ne_zero_of_lt hfuel)
    have hnext : Json.nextItem (count == 0) s = .ok none := by
      simp [Json.nextItem, skipSpace_of_closeArray hclose]
    refine ⟨[], .nil, rfl, fun before => ?_⟩
    rw [foldValues_succ, hnext]
    simp [hclose, Except.map]
  | cons m ms ih =>
    obtain ⟨fuel, rfl⟩ := Nat.exists_eq_succ_of_ne_zero (Nat.ne_zero_of_lt hfuel)
    rw [readItems] at hitems
    obtain ⟨found, hnext, hitems⟩ := bind_eq_ok_iff.1 hitems
    rw [mapError_eq_ok_iff] at hnext
    cases found with
    | none => cases hitems
    | some start =>
      obtain ⟨⟨text, s'⟩, hmember, hitems⟩ := bind_eq_ok_iff.1 hitems
      obtain ⟨hread, hlt, htext⟩ := readValue_of_memberShape hmember depth
      have hle := Json.length_le_of_nextItem hnext
      have hfuel' : s'.length < fuel := by omega
      obtain ⟨texts, hfits, rfl, hfold⟩ := ih hfuel' hitems
      refine ⟨text :: texts, .cons htext hfits, by simp, fun before => ?_⟩
      rw [foldValues_succ, hnext]
      simp only [hread, ok_bind]
      rw [List.map_cons, List.reverse_cons, List.append_assoc]
      exact hfold (item text :: before)

/-- The values of an array are read for members whose items they are. -/
theorem readItems_of_foldValues {fuel depth : Nat} {before found : List Json}
    (h : foldValues depth fuel (count == 0) before s = .ok (found, rest)) :
    ∃ values, found = values.reverse ++ before ∧ ∀ ms texts draft, Fits ms texts →
      values = texts.map item → ∃ after,
        readItems count draft ms s = .ok ((ms.zip texts).reverse ++ draft, after) ∧
          Json.closeArray after = .ok rest := by
  induction fuel generalizing count before s with
  | zero => cases h
  | succ fuel ih =>
    rw [foldValues_succ] at h
    split at h
    · cases h
    · obtain ⟨after, hclose, hfound⟩ := map_eq_ok_iff.1 h
      cases hfound
      refine ⟨[], rfl, fun ms texts draft hfits hvalues => ?_⟩
      obtain rfl := List.map_eq_nil_iff.1 hvalues.symm
      obtain rfl := List.forall₂_nil_right_iff.1 hfits
      exact ⟨s, rfl, hclose⟩
    · next start hnext =>
      obtain ⟨⟨value, s'⟩, hread, hfold⟩ := bind_eq_ok_iff.1 h
      replace hfold : foldValues depth fuel (count + 1 == 0) (value :: before) s' =
        .ok (found, rest) := hfold
      obtain ⟨values, rfl, hlater⟩ := ih hfold
      refine ⟨value :: values, by simp, fun ms texts draft hfits hvalues => ?_⟩
      cases hfits with
      | nil => cases hvalues
      | @cons m text ms texts htext hfits =>
        obtain ⟨rfl, hrest⟩ := List.cons.inj hvalues
        have hmember : memberShape m start = .ok (text, s') :=
          (memberShape_eq_ok_iff hread).2 ⟨memberValue_eq_ok_iff.2 ⟨rfl, htext⟩, rfl⟩
        obtain ⟨after, hitems, hclose⟩ := hlater ms texts ((m, text) :: draft) hfits hrest
        refine ⟨after, ?_, hclose⟩
        rw [readItems, hnext]
        simp only [mapError_ok, ok_bind, hmember, hitems]
        simp

/-! ## Texts -/

/-- A key is read from a text with a bracket just if the text is an array of its items. -/
theorem ofText_eq_ok_iff_of_bracket {t : String} {tail : List Char}
    (hs : Json.skipSpace t.toList = '[' :: tail) :
    ofText t = .ok key ↔ Json.read t = .ok (.array key.items) := by
  have hdepth : Json.readValue Json.maxDepth =
      Json.readValueWith (some (Json.readValue (Json.maxDepth - 1))) := rfl
  have hvalue : Json.readValue Json.maxDepth t.toList =
      Json.readArray (Json.readValue (Json.maxDepth - 1)) tail := by
    simp [hdepth, Json.readValueWith, hs]
  have hshape : shape t.toList = (do
      let found ← readItems 0 [] members tail
      let jwk ← found.1.finish
      let rest ← (Json.closeArray found.2).mapError .malformed
      .ok (jwk, rest)) := by
    simp [shape, Json.atValue, hs]
  rw [ofText, Json.read, hvalue, hshape]
  simp only [Json.readArray, bind_eq_ok_iff, Prod.exists, mapError_eq_ok_iff, Except.ok.injEq,
    Prod.mk.injEq]
  constructor
  · rintro ⟨_, rest, ⟨_, after, hitems, jwk, hfinish, _, hclose, rfl, rfl⟩, _, hend, rfl⟩
    obtain ⟨texts, hfits, rfl, hfold⟩ :=
      foldValues_of_readItems (Json.maxDepth - 1) (Nat.lt_succ_self _) hitems hclose
    obtain rfl := (finish_zip_iff hfits).1 hfinish
    refine ⟨_, _, ⟨_, _, hfold [], rfl, rfl⟩, _, hend, ?_⟩
    rw [List.append_nil, List.reverse_reverse, items_eq]
  · rintro ⟨_, rest, ⟨found, _, hfold, rfl, rfl⟩, _, hend, hfound⟩
    have hread : foldValues (Json.maxDepth - 1) (tail.length + 1) (0 == 0) [] tail = .ok (found, _) :=
      hfold
    obtain ⟨values, rfl, hitems⟩ := readItems_of_foldValues hread
    have hvalues : values = (members.map key.text?).map item := by
      simpa [items_eq] using hfound
    obtain ⟨after, hread, hclose⟩ := hitems members _ [] (fits_members key) hvalues
    exact ⟨key, _, ⟨_, after, hread, key, (finish_zip_iff (fits_members key)).2 rfl, _, hclose, rfl,
      rfl⟩, (), hend, rfl⟩

/-- A key is read from a text with a brace only if the text is that of an object. -/
theorem isObjectText_of_ofText {t : String} {tail : List Char}
    (hs : Json.skipSpace t.toList = '{' :: tail) (h : ofText t = .ok key) : Json.IsObjectText t := by
  simp only [ofText, shape, Json.atValue, hs, if_true, bind_eq_ok_iff, Prod.exists, mapError_eq_ok_iff,
    Except.ok.injEq, Prod.mk.injEq] at h
  obtain ⟨_, rest, ⟨draft, _, hmembers, -, -, -, rfl⟩, _, hend, -⟩ := h
  refine ⟨tail, _, hs, Json.skim_of_skims (Json.Closes.skims hs (.inr ⟨rfl, rfl⟩)
    (Json.closes_of_foldMembers ?_ hmembers)), hend⟩
  intro draft name s found rest hmember
  unfold readMember at hmember
  split at hmember
  · simp only [bind_eq_ok_iff, mapError_eq_ok_iff, Json.skimShape] at hmember
    obtain ⟨start, hcolon, after, hskim, hfound⟩ := hmember
    cases hfound
    exact ⟨start, hcolon, Json.skims_of_skim hskim⟩
  · split_ifs at hmember
    simp only [bind_eq_ok_iff, mapError_eq_ok_iff, Prod.exists] at hmember
    obtain ⟨start, hcolon, text, after, hvalue, hfound⟩ := hmember
    cases hfound
    exact ⟨start, hcolon, Json.skimmed_readValue 0 (readValue_of_memberShape hvalue 0).1⟩

/-! ## Shapes -/

/-- What may hold a key. -/
inductive Shape (key : Jwk) : Json → Prop
  /-- An object that describes the key. -/
  | object {object : Json.Object} (h : ofValue (.object object) = .ok key) : Shape key (.object object)
  /-- The items of the key in order. -/
  | items : Shape key (.array key.items)
  /-- A text of an object, even of one with members that cannot be read. -/
  | objectText {t : String} (hobject : Json.IsObjectText t) (h : ofText t = .ok key) : Shape key (.text t)
  /-- A text of the items. -/
  | itemsText {t : String} (h : Json.read t = .ok (.array key.items)) : Shape key (.text t)

/-- What stands first in a text tells which reader of keys gets it. -/
theorem shape_text_iff {t : String} : key.Shape (.text t) ↔ ofText t = .ok key := by
  constructor
  · rintro (_ | _ | ⟨-, h⟩ | hread)
    · exact h
    · obtain ⟨c, tail, rest, hs, hleads, -⟩ := Json.start_of_read hread
      obtain rfl : c = '[' := hleads
      exact (ofText_eq_ok_iff_of_bracket hs).2 hread
  · intro h
    cases hs : Json.skipSpace t.toList with
    | nil => simp [ofText, shape, Json.atValue, hs] at h
    | cons c tail =>
      by_cases hbrace : c = '{'
      · subst hbrace
        exact .objectText (isObjectText_of_ofText hs h) h
      by_cases hbracket : c = '['
      · subst hbracket
        exact .itemsText ((ofText_eq_ok_iff_of_bracket hs).1 h)
      · simp [ofText, shape, Json.atValue, hs, hbrace, hbracket] at h

theorem carries_iff_shape : Carries value key ↔ key.Shape value := by
  constructor
  · rintro (h | h)
    · cases value with
      | object object => exact .object h
      | array values =>
        obtain rfl := ofValue_array_eq_ok_iff.1 h
        exact .items
      | _ => cases h
    · exact shape_text_iff.2 h
  · intro h
    cases h with
    | object h => exact .value h
    | items => exact .value (ofValue_array_eq_ok_iff.2 rfl)
    | objectText hobject h => exact .text h
    | itemsText h => exact .text (shape_text_iff.1 (.itemsText h))

end Jwk

/-- A web key is decoded from an object or an array of its items, and from a text of one of these, quoted
once more or not, and from nothing else. A text that can be read is that of an object just if it is read as
one. -/
theorem web_key_shapes (b : Bytes) :
    (∀ value, Encoding.jwk.decodeValue value = .ok b ↔
      ∃ key : Jwk, key.Shape value ∧ key.keyBytes = .ok b) ∧
    (∀ t, Encoding.jwk.decodeText t = .ok b ↔
      ∃ value, ∃ key : Jwk, Json.read t = .ok value ∧ key.Shape value ∧ key.keyBytes = .ok b) ∧
    ∀ t value, Json.read t = .ok value → (Json.IsObjectText t ↔ ∃ object, value = .object object) := by
  refine ⟨fun value => ?_, fun t => ?_, fun t value => Json.isObjectText_iff_of_read⟩
  · rw [Encoding.decodeValue_jwk_eq_ok_iff]
    simp only [Jwk.carries_iff_shape, Jwk.keyBytes_eq_ok_iff]
  · rw [Encoding.decodeText_jwk_eq_ok_iff]
    simp only [Jwk.carries_iff_shape, Jwk.keyBytes_eq_ok_iff]

/-! ## A key without names

The items of a key in an array, and a text of an object that is quoted as a whole. -/

namespace Jwk

def plainKey : Jwk :=
  ⟨"OKP", some "Ed25519", some "11qYAYKxCrfVS_7TyWQHOg7hcvPapiMlrwIaaPcHURo", none, none, none⟩

def namelessText : String :=
  "[\"OKP\",\"Ed25519\",\"11qYAYKxCrfVS_7TyWQHOg7hcvPapiMlrwIaaPcHURo\",null,null,null]"

def quotedText : String :=
  "\"\x7b\\\"kty\\\":\\\"OKP\\\",\\\"crv\\\":\\\"Ed25519\\\","
    ++ "\\\"x\\\":\\\"11qYAYKxCrfVS_7TyWQHOg7hcvPapiMlrwIaaPcHURo\\\"\x7d\""

theorem read_nameless : Json.read namelessText = .ok (.array plainKey.items) := by
  have hkey : ofText namelessText = .ok plainKey := toOption_eq_some_iff.1 (by decide +kernel)
  exact (ofText_eq_ok_iff_of_bracket rfl).1 hkey

theorem keyBytes_plainKey : plainKey.keyBytes = .ok plainBytes :=
  toOption_eq_some_iff.1 (by decide +kernel)

theorem nameless_decodes :
    Encoding.jwk.decodeText namelessText = .ok plainBytes ∧
      Encoding.jwk.decodeValue (.array plainKey.items) = .ok plainBytes ∧
      ¬ Json.IsObjectText namelessText := by
  obtain ⟨hvalues, htexts, hobjects⟩ := web_key_shapes plainBytes
  refine ⟨(htexts _).2 ⟨_, plainKey, read_nameless, .items, keyBytes_plainKey⟩,
    (hvalues _).2 ⟨plainKey, .items, keyBytes_plainKey⟩, fun hobject => ?_⟩
  obtain ⟨object, h⟩ := (hobjects _ _ read_nameless).1 hobject
  cases h

/-- Neither the value nor the text of a key need be, or hold, an object. -/
theorem keys_beside_objects :
    (Encoding.jwk.decodeText namelessText = .ok plainBytes ∧
      Encoding.jwk.decodeText quotedText = .ok plainBytes) ∧
    (¬ ∀ t b, Encoding.jwk.decodeText t = .ok b → ∃ object, Json.read t = .ok (.object object)) ∧
    ¬ ∀ value b, Encoding.jwk.decodeValue value = .ok b → (∃ object, value = .object object) ∨
      ∃ t object, value = .text t ∧ Json.read t = .ok (.object object) := by
  have hcarries : Carries (.array plainKey.items) plainKey := .value (ofValue_array_eq_ok_iff.2 rfl)
  have hform : plainKey.NativeForm plainBytes := keyBytes_eq_ok_iff.1 keyBytes_plainKey
  have htext : Encoding.jwk.decodeText namelessText = .ok plainBytes :=
    Encoding.decodeText_jwk_eq_ok_iff.2 ⟨_, plainKey, read_nameless, hcarries, hform⟩
  have hvalue : Encoding.jwk.decodeValue (.array plainKey.items) = .ok plainBytes :=
    Encoding.decodeValue_jwk_eq_ok_iff.2 ⟨plainKey, hcarries, hform⟩
  have hquoted : Encoding.jwk.decodeText quotedText = .ok plainBytes :=
    toOption_eq_some_iff.1 (by decide +kernel)
  refine ⟨⟨htext, hquoted⟩, fun hall => ?_, fun hall => ?_⟩
  · obtain ⟨object, hread⟩ := hall _ _ htext
    rw [read_nameless] at hread
    cases hread
  · rcases hall _ _ hvalue with ⟨object, h⟩ | ⟨t, object, h, -⟩
    · cases h
    · cases h

end Jwk

end DidAdmission
