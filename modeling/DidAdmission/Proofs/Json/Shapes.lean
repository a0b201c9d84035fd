-- SUMMARY: What has been read as a value is read alike by the reader of its shape.
import DidAdmission.Json.Shape
import DidAdmission.Proofs.Json.Members

/-!
# Shapes of values

A text that has been read as a value is read by the reader of its shape too, and up to the same place. This
holds of truth values and of known names, and of a list if it holds of its items.
-/

namespace DidAdmission.Json

variable {depth count : Nat} {first : Bool} {s rest : List Char} {α : Type}

theorem booleanShape_of_readValue {b : Bool} (h : readValue depth s = .ok (.boolean b, rest)) :
    booleanShape s = .ok (b, rest) := by
  obtain ⟨nested, c, tail, hread, hs, hlead⟩ := exists_start_of_readValue h
  obtain rfl | rfl : c = 't' ∨ c = 'f' := hlead
  · replace hread : (skipWord ['r', 'u', 'e'] tail).map (fun rest => (Json.boolean true, rest)) =
        .ok (.boolean b, rest) := by
      simpa [readValueWith, hs] using hread
    obtain ⟨rest, hword, hv⟩ := map_eq_ok_iff.1 hread
    cases hv
    simp [booleanShape, atValue, hs, hword, Except.map]
  · replace hread : (skipWord ['a', 'l', 's', 'e'] tail).map (fun rest => (Json.boolean false, rest)) =
        .ok (.boolean b, rest) := by
      simpa [readValueWith, hs] using hread
    obtain ⟨rest, hword, hv⟩ := map_eq_ok_iff.1 hread
    cases hv
    simp [booleanShape, atValue, hs, hword, Except.map]

theorem variantShape_of_readValue {known : List (String × α)} {name : String} {a : α}
    (h : readValue depth s = .ok (.text name, rest)) (hknown : known.lookup name = some a) :
    variantShape known s = .ok (a, rest) := by
  obtain ⟨nested, c, tail, hread, hs, hlead⟩ := exists_start_of_readValue h
  obtain rfl : c = '"' := hlead
  obtain ⟨_, ⟨⟩, hname⟩ := text_of_readValueWith hs hread
  simp [variantShape, atValue, hs, Reader.shape, hname, variantOf, hknown]

/-! ## Lists -/

theorem items_of_readValue {items : List Json} (h : readValue depth s = .ok (.array items, rest)) :
    ∃ inner tail, skipSpace s = '[' :: tail ∧
      foldItems id (fun items s => (readValue inner s).map fun (v, rest) => (v :: items, rest))
        (tail.length + 1) true [] tail = .ok (items.reverse, rest) := by
  obtain ⟨-, c, tail, -, hs, hlead⟩ := exists_start_of_readValue h
  obtain rfl : c = '[' := hlead
  cases depth with
  | zero => simp [readValue, readValueWith, hs] at h
  | succ inner =>
    replace h : readArray (readValue inner) tail = .ok (.array items, rest) := by
      simpa [readValue, readValueWith, hs] using h
    simp only [readArray, bind_eq_ok_iff, Prod.exists, Except.ok.injEq, Prod.mk.injEq,
      Json.array.injEq] at h
    obtain ⟨found, rest, hfold, rfl, rfl⟩ := h
    refine ⟨inner, tail, hs, ?_⟩
    rw [List.reverse_reverse, hfold]

/-- Items that are spelled out as values are read back one after another. The induction is on the fuel that
both readers go by. -/
theorem foldItems_spelled {spell : α → Json} {item : ShapeReader α} {before found : List Json}
    (hitem : ∀ a s rest, readValue depth s = .ok (spell a, rest) → item s = .ok (a, rest))
    (h : foldItems id (fun items s => (readValue depth s).map fun (v, rest) => (v :: items, rest))
      count first before s = .ok (found, rest)) :
    ∃ items : List Json, found = items.reverse ++ before ∧ ∀ (as earlier : List α), items = as.map spell →
      foldItems .malformed (fun items s => (item s).map fun (v, rest) => (v :: items, rest))
        count first earlier s = .ok (as.reverse ++ earlier, rest) := by
  induction count generalizing first before s with
  | zero => cases h
  | succ count ih =>
    rw [foldItems] at h
    split at h
    · cases h
    · next hnext =>
      split at h
      · cases h
      · next hclose =>
        cases h
        refine ⟨[], rfl, fun as earlier has => ?_⟩
        obtain rfl := List.map_eq_nil_iff.1 has.symm
        simp [foldItems, hnext, hclose]
    · next start hnext =>
      split at h
      · cases h
      · next hread =>
        obtain ⟨⟨value, following⟩, hvalue, hfound⟩ := map_eq_ok_iff.1 hread
        cases hfound
        obtain ⟨items, rfl, hlater⟩ := ih h
        refine ⟨value :: items, by simp, fun as earlier has => ?_⟩
        obtain ⟨a, as, rfl, rfl, rfl⟩ := List.map_eq_cons_iff.1 has.symm
        simp only [foldItems, hnext, hitem a _ _ hvalue]
        have hrest := hlater as (a :: earlier) rfl
        rw [List.reverse_cons, List.append_assoc]
        exact hrest

theorem listShape_of_readValue {spell : α → Json} {item : ShapeReader α} {as : List α}
    (hitem : ∀ depth a s rest, readValue depth s = .ok (spell a, rest) → item s = .ok (a, rest))
    (h : readValue depth s = .ok (.array (as.map spell), rest)) : listShape item s = .ok (as, rest) := by
  obtain ⟨inner, tail, hs, hread⟩ := items_of_readValue h
  obtain ⟨items, hfound, hfold⟩ := foldItems_spelled (hitem inner) hread
  rw [List.append_nil, List.reverse_inj] at hfound
  simp only [listShape, atValue, hs, if_true, hfold as [] hfound.symm, ok_bind, List.append_nil,
    List.reverse_reverse]

end DidAdmission.Json
