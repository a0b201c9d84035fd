-- SUMMARY: URIs of the scheme `did` that are kept as written: a path that is not rooted and a fragment.
import DidAdmission.Uri.Parse
import Mathlib.Data.List.TakeWhile

/-!
# URIs that are kept as written

Reading a URI drops characters around it and inside it, cuts it at its marks and encodes what a part may
not hold. A path and a fragment of unreserved characters and colons give no cause for any of this, so
after the scheme `did` they are kept, and the URI is written as it was read.
-/

namespace DidAdmission

theorem Text.dropWhile_eq_self {p : Char → Bool} {cs : List Char} (h : ∀ c ∈ cs, p c = false) :
    cs.dropWhile p = cs :=
  List.dropWhile_eq_self_iff.2 fun hlength => by simp [h cs[0] (List.getElem_mem hlength)]

/-- A text in which no character satisfies `p` is not trimmed. -/
theorem Text.trimBoth_eq_self {p : Char → Bool} {cs : List Char} (h : ∀ c ∈ cs, p c = false) :
    trimBoth p cs = cs := by
  rw [trimBoth, dropWhile_eq_self h, dropWhile_eq_self fun c hc => h c (List.mem_reverse.1 hc),
    List.reverse_reverse]

namespace Uri

/-! ## Characters -/

/-- Is the character one that no part of a URI gives a meaning to? -/
def isUnreserved (c : Char) : Bool :=
  c.isAlphanum || c == '-' || c == '.' || c == '_' || c == '~'

/-- Is the character unreserved or a colon, which has no meaning after the scheme? -/
def isPlain (c : Char) : Bool :=
  isUnreserved c || c == ':'

theorem isPlain_of_isUnreserved {c : Char} (h : isUnreserved c = true) : isPlain c = true := by
  rw [isPlain, h, Bool.true_or]

theorem isPlain_of_isAlphanum {c : Char} (h : c.isAlphanum = true) : isPlain c = true :=
  isPlain_of_isUnreserved (by simp [isUnreserved, h])

/-- Plain characters are printed in ASCII. -/
theorem toNat_of_isPlain {c : Char} (h : isPlain c = true) : 0x20 < c.toNat ∧ c.toNat < 0x7F := by
  simp only [isPlain, isUnreserved, Bool.or_eq_true, beq_iff_eq] at h
  rcases h with ((((h | rfl) | rfl) | rfl) | rfl) | rfl
  · have hrange : ((65 ≤ c.toNat ∧ c.toNat ≤ 90) ∨ (97 ≤ c.toNat ∧ c.toNat ≤ 122)) ∨
        (48 ≤ c.toNat ∧ c.toNat ≤ 57) := by
      have hcodes : (((c.val ≥ 65 ∧ c.val ≤ 90 : Bool) || (c.val ≥ 97 && c.val ≤ 122)) ||
        (c.val ≥ 48 && c.val ≤ 57)) = true := h
      simpa [UInt32.le_iff_toNat_le] using hcodes
    omega
  all_goals decide

theorem ne_of_isPlain {c mark : Char} (h : isPlain c = true) (hmark : isPlain mark = false) :
    c ≠ mark := by
  rintro rfl
  rw [h] at hmark
  cases hmark

theorem notMem_of_plain {cs : List Char} {mark : Char} (h : ∀ c ∈ cs, isPlain c = true)
    (hmark : isPlain mark = false) : mark ∉ cs :=
  fun hmem => ne_of_isPlain (h mark hmem) hmark rfl

theorem isControl_of_isPlain {c : Char} (h : isPlain c = true) : Percent.isControl c = false := by
  have hrange := toNat_of_isPlain h
  simp only [Percent.isControl, Bool.or_eq_false_iff, decide_eq_false_iff_not]
  omega

theorem inFragment_of_isPlain {c : Char} (h : isPlain c = true) : Percent.inFragment c = false := by
  have htick : c ≠ Char.ofNat 0x60 := ne_of_isPlain h (by decide)
  simp only [Percent.inFragment, Bool.or_eq_false_iff, beq_eq_false_iff_ne]
  refine ⟨⟨⟨⟨?_, ?_⟩, ?_⟩, ?_⟩, fun hcode => htick ?_⟩
  iterate 4 exact ne_of_isPlain h (by decide)
  rw [← hcode, Char.ofNat_toNat]

/-! ## Parts -/

/-- Nothing is dropped from a text without blanks and controls. -/
theorem clean_eq_self {cs : List Char} (h : ∀ c ∈ cs, 0x20 < c.toNat) : clean cs = cs := by
  have hedge : ∀ c ∈ cs, isEdge c = false := fun c hc => by
    simpa [isEdge] using h c hc
  rw [clean, Text.trimBoth_eq_self hedge, List.filter_eq_self]
  intro c hc
  have hcode := h c hc
  have htab : c ≠ '\t' := by rintro rfl; exact absurd hcode (by decide)
  have hfeed : c ≠ '\n' := by rintro rfl; exact absurd hcode (by decide)
  have hreturn : c ≠ '\r' := by rintro rfl; exact absurd hcode (by decide)
  simp [isIgnored, htab, hfeed, hreturn]

/-- A text without the mark is not cut. -/
theorem cutAt_of_notMem {mark : Char} {cs : List Char} (h : mark ∉ cs) :
    cutAt mark cs = (cs, none) := by
  have hdrop : cs.dropWhile (· != mark) = [] :=
    List.dropWhile_eq_nil_iff.2 fun c hc => bne_iff_ne.2 (ne_of_mem_of_not_mem hc h)
  rw [cutAt, hdrop]

/-- A text is cut at the first mark in it. -/
theorem cutAt_append {mark : Char} {front : List Char} (h : mark ∉ front) (rest : List Char) :
    cutAt mark (front ++ mark :: rest) = (front, some rest) := by
  have hfront : ∀ c ∈ front, (c != mark) = true := fun c hc =>
    bne_iff_ne.2 (ne_of_mem_of_not_mem hc h)
  simp [cutAt, List.dropWhile_append_of_pos hfront, List.takeWhile_append_of_pos hfront]

theorem scheme?_did (rest : List Char) :
    scheme? ('d' :: 'i' :: 'd' :: ':' :: rest) = some ("did", rest) :=
  rfl

/-- A path that does not start with a slash is kept as text. -/
theorem plainBody?_of_notMem {cs : List Char} (h : '/' ∉ cs) (scheme : String) (bare : Bool) :
    plainBody? scheme bare cs = some (none, Path.verbatimOf cs) := by
  unfold plainBody?
  split
  · exact absurd List.mem_cons_self h
  · exact absurd List.mem_cons_self h
  · rfl

/-- A path and a fragment of plain characters are not encoded. -/
theorem verbatimOf_of_plain {s : String} (h : ∀ c ∈ s.toList, isPlain c = true) :
    Path.verbatimOf s.toList = .verbatim s := by
  have hkept : ∀ c ∈ s.toList, Percent.isControl c = false ∧ Percent.inOpaque c = false :=
    fun c hc => ⟨isControl_of_isPlain (h c hc), rfl⟩
  rw [Path.verbatimOf, Percent.encode_eq_self hkept, String.ofList_toList]

theorem keepFragment_of_plain {s : String} (h : ∀ c ∈ s.toList, isPlain c = true) :
    keepFragment s.toList = s := by
  have hkept : ∀ c ∈ s.toList, Percent.isControl c = false ∧ Percent.inFragment c = false :=
    fun c hc => ⟨isControl_of_isPlain (h c hc), inFragment_of_isPlain (h c hc)⟩
  rw [keepFragment, Percent.encode_eq_self hkept, String.ofList_toList]

/-- A path without spaces loses nothing with its fragment. -/
theorem trimSpaces_verbatim {s : String} (h : ' ' ∉ s.toList) :
    (Path.verbatim s).trimSpaces = .verbatim s := by
  have hkept : s.toList.reverse.dropWhile (· == ' ') = s.toList.reverse :=
    Text.dropWhile_eq_self fun c hc =>
      beq_eq_false_iff_ne.2 (ne_of_mem_of_not_mem (List.mem_reverse.1 hc) h)
  rw [Path.trimSpaces, hkept, List.reverse_reverse, String.ofList_toList]

/-! ## The whole -/

variable {place fragment : String}

/-- A URI of the scheme `did` with a path kept as text and a fragment. -/
def ofDid (place fragment : String) : Uri :=
  ⟨"did", none, .verbatim place, none, some fragment⟩

theorem ofDid_inj {place' fragment' : String} (h : ofDid place fragment = ofDid place' fragment') :
    place = place' ∧ fragment = fragment' := by
  simpa [ofDid] using h

/-- A path and a fragment of plain characters are read as they are. -/
theorem parse?_did (hplace : ∀ c ∈ place.toList, isPlain c = true)
    (hfragment : ∀ c ∈ fragment.toList, isPlain c = true) :
    parse? ("did:" ++ place ++ "#" ++ fragment) = some (ofDid place fragment) := by
  have hchars : ("did:" ++ place ++ "#" ++ fragment).toList =
      'd' :: 'i' :: 'd' :: ':' :: (place.toList ++ '#' :: fragment.toList) := by simp
  have hclean : clean ("did:" ++ place ++ "#" ++ fragment).toList = 
      'd' :: 'i' :: 'd' :: ':' :: (place.toList ++ '#' :: fragment.toList) := by
    rw [hchars]
    refine clean_eq_self ?_
    simp only [List.forall_mem_cons, List.forall_mem_append]
    refine ⟨by decide, by decide, by decide, by decide, fun c hc => ?_, by decide, fun c hc => ?_⟩
    · exact (toNat_of_isPlain (hplace c hc)).1
    · exact (toNat_of_isPlain (hfragment c hc)).1
  have hhash : '#' ∉ place.toList := notMem_of_plain hplace rfl
  have hquery : '?' ∉ place.toList := notMem_of_plain hplace rfl
  have hslash : '/' ∉ place.toList := notMem_of_plain hplace rfl
  have hspecial : isSpecial "did" = false := by decide
  rw [parse?, ofChars?, hclean, scheme?_did]
  simp [cutAt_append hhash, cutAt_of_notMem hquery, plainBody?_of_notMem hslash, hspecial,
    verbatimOf_of_plain hplace, keepFragment_of_plain hfragment, ofDid]

theorem text_ofDid (place fragment : String) :
    (ofDid place fragment).text = "did:" ++ place ++ "#" ++ fragment := by
  simp [ofDid, text, stem, body, marked, Path.looksLikeAuthority, Path.text, String.append_assoc]

theorem text_withoutFragment_ofDid (hplace : ∀ c ∈ place.toList, isPlain c = true) :
    (ofDid place fragment).withoutFragment.text = "did:" ++ place := by
  simp [ofDid, withoutFragment, trimSpaces_verbatim (notMem_of_plain hplace rfl), text, stem, body,
    marked, Path.looksLikeAuthority, Path.text]

end Uri

end DidAdmission
