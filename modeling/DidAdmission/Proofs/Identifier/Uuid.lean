-- SUMMARY: UUIDs: groups of digits between hyphens, and the sixteen bytes they write.
import DidAdmission.Identifier
import DidAdmission.Proofs.Codec.Symbols
import DidAdmission.Proofs.Text.Pieces
import Mathlib.Data.List.SplitLengths

/-!
# UUIDs

A UUID is five groups of digits with a hyphen between any two. Its digits write sixteen bytes, of which the
UUID in lower case is the text.
-/

namespace DidAdmission

/-! ## Groups between hyphens -/

/-- The text is made of groups of the given lengths with a hyphen between any two, and the characters of
the groups satisfy `p`. -/
def Grouped (p : Char → Prop) (lengths : List Nat) (cs : List Char) : Prop :=
  ∃ groups, cs = ['-'].intercalate groups ∧ groups.map List.length = lengths ∧
    ∀ group ∈ groups, ∀ c ∈ group, p c

theorem splitLengths_flatten {α : Type} (groups : List (List α)) :
    (groups.map List.length).splitLengths groups.flatten = groups := by
  induction groups with
  | nil => rfl
  | cons group groups ih => simp [ih]

namespace Grouped

variable {p q : Char → Prop} {lengths : List Nat} {cs : List Char}

theorem mem (h : Grouped p lengths cs) {c : Char} (hc : c ∈ cs) : c = '-' ∨ p c := by
  obtain ⟨groups, rfl, -, hgroups⟩ := h
  exact (Text.mem_intercalate hc).imp_right fun ⟨group, hgroup, hc⟩ => hgroups group hgroup c hc

/-- The groups are cut at the hyphens, whatever else is asked of their characters. -/
theorem imp (h : Grouped p lengths cs) (hq : ∀ c ∈ cs, p c → q c) : Grouped q lengths cs := by
  obtain ⟨groups, rfl, hlengths, hgroups⟩ := h
  refine ⟨groups, rfl, hlengths, fun group hgroup c hc => ?_⟩
  exact hq c (Text.mem_intercalate_of_mem hgroup hc) (hgroups group hgroup c hc)

end Grouped

/-! ## UUIDs -/

namespace Uuid

/-- The lengths of the groups of a UUID. -/
def groupLengths : List Nat := [8, 4, 4, 4, 12]

/-- The lower-case text of sixteen bytes. -/
def text (value : Bytes) : List Char :=
  ['-'].intercalate (groupLengths.splitLengths (Hex.encode value))

/-- The digits of a UUID write sixteen bytes, and the UUID in lower case is their text. -/
theorem exists_value {uuid : List Char} (h : Grouped (· ∈ Hex.digits) groupLengths uuid) :
    ∃ value : Bytes, value.length = 16 ∧ Hex.decode (uuid.filter (· != '-')) = .ok value ∧
      text value = uuid.map Char.toLower := by
  obtain ⟨groups, rfl, hlengths, hdigits⟩ := h
  have hplain : ∀ group ∈ groups, '-' ∉ group := fun group hgroup hhyphen =>
    absurd (hdigits group hgroup '-' hhyphen) (by decide)
  have hlength : groups.flatten.length = 32 := by
    rw [List.length_flatten, hlengths]
    rfl
  obtain ⟨value, hvalue⟩ : ∃ value, Hex.encode value = groups.flatten.map Char.toLower := by
    refine Hex.exists_encode_of_digits ?_ (by rw [hlength])
    intro c hc
    obtain ⟨group, hgroup, hc⟩ := List.mem_flatten.1 hc
    exact hdigits group hgroup c hc
  have hsize := congrArg List.length hvalue
  rw [Hex.length_encode, List.length_map, hlength] at hsize
  refine ⟨value, by omega, ?_, ?_⟩
  · rw [Text.filter_intercalate hplain]
    exact Hex.decode_eq_ok_iff.2 hvalue
  · have hgroups := splitLengths_flatten (groups.map (List.map Char.toLower))
    have hsame : (groups.map (List.map Char.toLower)).map List.length = groupLengths := by
      rw [List.map_map, ← hlengths]
      exact List.map_congr_left fun group _ => List.length_map _
    rw [hsame, ← List.map_flatten, ← hvalue] at hgroups
    rw [text, hgroups, Text.map_intercalate (by decide)]

end Uuid

namespace Identifier

/-! ## UUIDs in identifiers -/

theorem isUuidShaped_iff {segment : List Char} :
    isUuidShaped segment = true ↔ Grouped (·.isAlphanum = true) Uuid.groupLengths segment := by
  simp only [isUuidShaped, Bool.and_eq_true, beq_iff_eq, List.all_eq_true]
  constructor
  · rintro ⟨hlengths, hgroups⟩
    obtain ⟨-, -, hsegment⟩ := Text.split_eq_iff.1 (rfl : Text.split '-' segment = _)
    exact ⟨Text.split '-' segment, hsegment, hlengths, hgroups⟩
  · rintro ⟨groups, hsegment, hlengths, hgroups⟩
    have hplain : ∀ group ∈ groups, '-' ∉ group := fun group hgroup hhyphen =>
      absurd (hgroups group hgroup '-' hhyphen) (by decide)
    have hne : groups ≠ [] := by
      rintro rfl
      cases hlengths
    rw [Text.split_eq_iff.2 ⟨hne, hplain, hsegment⟩]
    exact ⟨hlengths, hgroups⟩

theorem isHexDigit_iff {c : Char} : isHexDigit c = true ↔ c ∈ Hex.digits := by
  constructor
  · intro h
    have hascii : c.toNat < 128 := by
      have hrange : ((48 ≤ c.toNat ∧ c.toNat ≤ 57) ∨ (97 ≤ c.toNat ∧ c.toNat ≤ 102)) ∨
          (65 ≤ c.toNat ∧ c.toNat ≤ 70) := by
        simpa [isHexDigit, Char.isDigit, Char.le_def, UInt32.le_iff_toNat_le] using h
      omega
    have hall : ∀ n : Fin 128,
        isHexDigit (Char.ofNat n) = true → Char.ofNat n ∈ Hex.digits := by decide +kernel
    have hc := hall ⟨c.toNat, hascii⟩
    rw [Char.ofNat_toNat] at hc
    exact hc h
  · have hall : Hex.digits.all isHexDigit = true := by decide
    exact List.all_eq_true.1 hall c

theorem isHexadecimal_iff {segment : List Char} :
    isHexadecimal segment = true ↔ ∀ c ∈ segment, c = '-' ∨ c ∈ Hex.digits := by
  simp [isHexadecimal, isHexDigit_iff]

theorem not_isHexadecimal_iff {segment : List Char} :
    ¬ isHexadecimal segment = true ↔ ∃ c ∈ segment, c ≠ '-' ∧ c ∉ Hex.digits := by
  rw [isHexadecimal_iff]
  push Not
  exact Iff.rfl

theorem isHexadecimal_of_grouped {segment : List Char}
    (h : Grouped (· ∈ Hex.digits) Uuid.groupLengths segment) : isHexadecimal segment = true :=
  isHexadecimal_iff.2 fun _ => h.mem

end Identifier

end DidAdmission
