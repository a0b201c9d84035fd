-- SUMMARY: The form of an identifier, and the characters in it.
import DidAdmission.Identifier

/-!
# The form of identifiers

What the parser accepts, as one equivalence, and from it which characters an identifier cannot hold.
-/

namespace DidAdmission.Identifier

/-- An identifier is read from four segments between colons. -/
theorem parse_eq_ok_iff {policy : NetworkPolicy} {input : String} {id : Identifier} :
    parse policy input = .ok id ↔
      ∃ method network uuid found,
        Text.split ':' input.toList = [['d', 'i', 'd'], method, network, uuid] ∧
        isNameOf isMethodChar method = true ∧ isNameOf isNetworkChar network = true ∧
        isUuidShaped uuid = true ∧ isHexadecimal uuid = true ∧
        networkOf policy (String.ofList network) = .ok found ∧
        ⟨input, String.ofList method, found, String.ofList uuid⟩ = id := by
  unfold parse
  constructor
  · intro h
    split at h
    · next scheme segments hsplit =>
      split at h
      · cases h
      · next hscheme =>
        obtain rfl := Classical.not_not.1 hscheme
        split at h
        · next method network uuid =>
          split at h
          · next hshape =>
            simp only [Bool.and_eq_true] at hshape
            split at h
            · next hhex =>
              cases hfound : networkOf policy (String.ofList network) with
              | error failure => simp [hfound, Except.map] at h
              | ok found =>
                rw [hfound] at h
                exact ⟨method, network, uuid, found, hsplit, hshape.1.1, hshape.1.2, hshape.2, hhex,
                  hfound, Except.ok.inj h⟩
            · cases h
          · cases h
        · cases h
    · cases h
  · rintro ⟨method, network, uuid, found, hsplit, hmethod, hnetwork, huuid, hhex, hfound, rfl⟩
    simp [hsplit, hmethod, hnetwork, huuid, hhex, hfound, Except.map]

/-- The text of an identifier is what was read. -/
theorem text_of_parse {policy : NetworkPolicy} {input : String} {id : Identifier}
    (h : parse policy input = .ok id) : id.text = input := by
  obtain ⟨method, network, uuid, found, -, -, -, -, -, -, rfl⟩ := parse_eq_ok_iff.1 h
  rfl

/-- A character that satisfies `p` is neither a space nor a hash if these do not satisfy it. -/
theorem plain_of_holds {p : Char → Bool} {c : Char} (hspace : p ' ' = false) (hhash : p '#' = false)
    (hc : p c = true) : c ≠ ' ' ∧ c ≠ '#' := by
  constructor
  · rintro rfl
    exact absurd hc (by simp [hspace])
  · rintro rfl
    exact absurd hc (by simp [hhash])

/-- An identifier holds no space and no hash. -/
theorem plain_of_parse {policy : NetworkPolicy} {input : String} {id : Identifier}
    (h : parse policy input = .ok id) : ∀ c ∈ id.text.toList, c ≠ ' ' ∧ c ≠ '#' := by
  rw [text_of_parse h]
  obtain ⟨method, network, uuid, found, hsplit, hmethod, hnetwork, -, hhex, -, -⟩ :=
    parse_eq_ok_iff.1 h
  simp only [isNameOf, Bool.and_eq_true, List.all_eq_true] at hmethod hnetwork
  simp only [isHexadecimal, List.all_eq_true] at hhex
  have hscheme : ∀ c ∈ ['d', 'i', 'd'], c ≠ ' ' ∧ c ≠ '#' := by simp
  intro c hc
  rcases Text.mem_splitWhere (p := (· == ':')) hc with hcolon | ⟨piece, hpiece, hc⟩
  · exact plain_of_holds (p := (· == ':')) rfl rfl hcolon
  · have hpieces : Text.splitWhere (· == ':') input.toList = _ := hsplit
    simp only [hpieces, List.mem_cons, List.not_mem_nil, or_false] at hpiece
    rcases hpiece with rfl | rfl | rfl | rfl
    · exact hscheme c hc
    · exact plain_of_holds rfl rfl (hmethod.2 c hc)
    · exact plain_of_holds rfl rfl (hnetwork.2 c hc)
    · exact plain_of_holds (p := fun c => c == '-' || isHexDigit c) rfl rfl (hhex c hc)

end DidAdmission.Identifier
