-- SUMMARY: The key id of an anchored key names one document.
import DidAdmission.Document
import DidAdmission.Proofs.Identifier.Form

/-!
# Anchors

Before its hash, the id of an anchored key is the id of the document with spaces after it, since a
path kept as text loses the spaces at its end together with the fragment. An identifier holds
neither spaces nor hashes, so the key id still tells which document it is anchored in.
-/

namespace DidAdmission

/-! ## Texts of key ids -/

/-- Only spaces are trimmed from a path. -/
theorem Path.toList_text_eq (p : Path) :
    ∃ spaces, (∀ c ∈ spaces, c = ' ') ∧ p.text.toList = p.trimSpaces.text.toList ++ spaces := by
  cases p with
  | rooted segments => exact ⟨[], nofun, by simp [trimSpaces]⟩
  | verbatim s =>
    refine ⟨(s.toList.reverse.takeWhile (· == ' ')).reverse, ?_, ?_⟩
    · intro c hc
      have hspace := List.all_eq_true.1 List.all_takeWhile c (List.mem_reverse.1 hc)
      exact eq_of_beq hspace
    · simp only [text, trimSpaces, String.toList_ofList]
      rw [← List.reverse_append, List.takeWhile_append_dropWhile, List.reverse_reverse]

@[simp] theorem Path.looksLikeAuthority_trimSpaces (p : Path) :
    p.trimSpaces.looksLikeAuthority = p.looksLikeAuthority := by
  cases p <;> rfl

/-- Without its fragment a URI is written as before the fragment, except for spaces at the end. -/
theorem Uri.toList_stem_eq (u : Uri) :
    ∃ spaces, (∀ c ∈ spaces, c = ' ') ∧
      u.stem.toList = u.withoutFragment.text.toList ++ spaces := by
  cases hquery : u.query with
  | some query =>
    refine ⟨[], nofun, ?_⟩
    simp [text, withoutFragment, stem, body, marked, hquery]
  | none =>
    obtain ⟨spaces, hspaces, hpath⟩ := u.path.toList_text_eq
    refine ⟨spaces, hspaces, ?_⟩
    cases hauthority : u.authority <;>
      simp [text, withoutFragment, stem, body, marked, hquery, hauthority, hpath]

/-- The id of an anchored key is the id of the document, spaces, a hash and a fragment. -/
theorem PublicKey.toList_id_of_isAnchoredIn {key : PublicKey} {documentId : String}
    (h : key.isAnchoredIn documentId = true) :
    ∃ spaces fragment, (∀ c ∈ spaces, c = ' ') ∧ fragment ≠ [] ∧
      key.id.text.toList = documentId.toList ++ (spaces ++ '#' :: fragment) := by
  simp only [isAnchoredIn, Bool.and_eq_true, beq_iff_eq, Option.any_eq_true, bne_iff_ne] at h
  obtain ⟨⟨fragment, hfragment, hne⟩, rfl⟩ := h
  obtain ⟨spaces, hspaces, hstem⟩ := key.id.toList_stem_eq
  refine ⟨spaces, fragment.toList, hspaces, by simpa using hne, ?_⟩
  simp [Uri.text, Uri.marked, hfragment, hstem, owner]

/-! ## The document of a key -/

/-- The part of a key id that names the document. -/
def Uri.anchor (u : Uri) : List Char :=
  u.text.toList.takeWhile fun c => c ≠ ' ' ∧ c ≠ '#'

theorem PublicKey.anchor_of_isAnchoredIn {key : PublicKey} {id : Identifier}
    (hplain : ∀ c ∈ id.text.toList, c ≠ ' ' ∧ c ≠ '#') (h : key.isAnchoredIn id.text = true) :
    key.id.anchor = id.text.toList := by
  obtain ⟨spaces, fragment, hspaces, -, htext⟩ := toList_id_of_isAnchoredIn h
  rw [Uri.anchor, htext, List.takeWhile_append_of_pos (by simpa using hplain)]
  have hstop : (spaces ++ '#' :: fragment).takeWhile (fun c => c ≠ ' ' ∧ c ≠ '#') = [] := by
    cases spaces with
    | nil => rfl
    | cons c rest =>
      obtain rfl := hspaces c List.mem_cons_self
      rfl
  rw [hstop, List.append_nil]

/-- The id of a document is the identifier that its text is read as. -/
theorem Document.parse_of_id {policy : NetworkPolicy} {d : Document} {id : Identifier}
    (h : d.id policy = .ok id) : Identifier.parse policy id.text = .ok id := by
  unfold Document.id at h
  split at h
  · cases h
  · next text _ =>
    have hparse := mapError_eq_ok_iff.1 h
    rw [Identifier.text_of_parse hparse, hparse]

/-- Two anchored keys with one id are anchored in one document. -/
theorem PublicKey.anchored_unique {policy : NetworkPolicy} {d d' : Document} {id id' : Identifier}
    {key key' : PublicKey} (hid : d.id policy = .ok id) (hid' : d'.id policy = .ok id')
    (h : key.isAnchoredIn id.text = true) (h' : key'.isAnchoredIn id'.text = true)
    (hsame : key.id.text = key'.id.text) : id = id' := by
  have hparse := Document.parse_of_id hid
  have hparse' := Document.parse_of_id hid'
  have hanchor : id.text.toList = id'.text.toList := by
    rw [← anchor_of_isAnchoredIn (Identifier.plain_of_parse hparse) h,
      ← anchor_of_isAnchoredIn (Identifier.plain_of_parse hparse') h', Uri.anchor, Uri.anchor,
      hsame]
  rw [String.toList_inj.1 hanchor] at hparse
  exact Except.ok.inj (hparse.symm.trans hparse')

end DidAdmission
