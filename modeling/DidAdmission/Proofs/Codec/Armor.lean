-- SUMMARY: PEM armor holds exactly one block, however its lines are laid out.
import DidAdmission.Material
import DidAdmission.Proofs.Codec.Base64
import DidAdmission.Proofs.Text.Pieces
import DidAdmission.Proofs.Text.Trimming

/-!
# One armored block

A text is read as PEM when its lines are a block and nothing else: a BEGIN line, the body, and an END line
with the label of the BEGIN line. Hyphens stand in the lines around a body and never in the body, so a text
that is longer than a block by more than blanks is not one.
-/

namespace DidAdmission

namespace Base64

variable {s : List Char} {b : Bytes} {c : Char}

/-- A text that is read has symbols and padding only. -/
theorem mem_of_decode (h : decode s = .ok b) (hc : c ∈ s) : c ∈ Alphabet.base64 ∨ c = '=' := by
  obtain ⟨count, rfl⟩ := complete_base64.eq_of_decodeIn h
  rcases List.mem_append.1 hc with hsymbol | hpadding
  · obtain ⟨v, hv, rfl⟩ := List.mem_map.1 hsymbol
    exact .inl (Alphabet.symbol_mem (splitSextets_lt b v hv))
  · exact .inr (List.eq_of_mem_replicate hpadding)

theorem hyphen_notMem_of_decode (h : decode s = .ok b) : '-' ∉ s := fun hc =>
  (mem_of_decode h hc).elim (by decide) (by decide)

theorem isBlank_of_decode (h : decode s = .ok b) (hc : c ∈ s) : Text.isBlank c = false := by
  have hsymbols : Alphabet.base64.all (!Text.isBlank ·) = true := by decide
  rcases mem_of_decode h hc with hsymbol | rfl
  · simpa using List.all_eq_true.1 hsymbols c hsymbol
  · rfl

end Base64

namespace Pem

variable {s t label opened closed line text : List Char} {parts rest rows : List (List Char)} {b : Bytes}

/-! ## Lines that open and close a block -/

/-- The line that opens a block. -/
def beginLine (label : List Char) : List Char :=
  "-----BEGIN ".toList ++ label ++ "-----".toList

/-- The line that closes a block. -/
def endLine (label : List Char) : List Char :=
  "-----END ".toList ++ label ++ "-----".toList

theorem armor_eq (label : List Char) (parts : List (List Char)) :
    armor label parts = beginLine label :: (parts ++ [endLine label]) := rfl

theorem label?_eq_some_iff {keyword : List Char} : label? keyword line = some label ↔
    line = "-----".toList ++ keyword ++ [' '] ++ label ++ "-----".toList := by
  simp only [label?, Option.bind_eq_some_iff, Text.dropLead?_eq_some_iff, Text.dropTail?_eq_some_iff]
  constructor
  · rintro ⟨rest, rfl, rfl⟩
    exact (List.append_assoc ..).symm
  · rintro rfl
    exact ⟨_, List.append_assoc .., rfl⟩

theorem beginLabel?_eq_some_iff : beginLabel? line = some label ↔ line = beginLine label := by
  have hlead : "-----".toList ++ "BEGIN".toList ++ [' '] = "-----BEGIN ".toList := by decide
  rw [beginLabel?, label?_eq_some_iff, hlead]
  rfl

theorem endLabel?_eq_some_iff : endLabel? line = some label ↔ line = endLine label := by
  have hlead : "-----".toList ++ "END".toList ++ [' '] = "-----END ".toList := by decide
  rw [endLabel?, label?_eq_some_iff, hlead]
  rfl

theorem endLabel?_eq_none_iff : endLabel? line = none ↔ ∀ label, line ≠ endLine label := by
  rw [Option.eq_none_iff_forall_ne_some]
  exact forall_congr' fun label => not_congr endLabel?_eq_some_iff

@[simp] theorem beginLabel?_beginLine (label : List Char) :
    beginLabel? (beginLine label) = some label :=
  beginLabel?_eq_some_iff.2 rfl

@[simp] theorem endLabel?_endLine (label : List Char) : endLabel? (endLine label) = some label :=
  endLabel?_eq_some_iff.2 rfl

theorem beginLine_inj : beginLine opened = beginLine label ↔ opened = label := by
  unfold beginLine
  simp

theorem endLine_inj : endLine closed = endLine label ↔ closed = label := by
  unfold endLine
  simp

theorem hyphen_mem_beginLine (label : List Char) : '-' ∈ beginLine label :=
  List.mem_cons_self

theorem hyphen_mem_endLine (label : List Char) : '-' ∈ endLine label :=
  List.mem_cons_self

theorem beginLine_ne_nil (label : List Char) : beginLine label ≠ [] :=
  List.ne_nil_of_mem (hyphen_mem_beginLine label)

theorem endLine_ne_nil (label : List Char) : endLine label ≠ [] :=
  List.ne_nil_of_mem (hyphen_mem_endLine label)

theorem tight_hyphens : Text.Tight "-----".toList := by
  refine Text.tight_of_forall fun c hc => ?_
  obtain rfl := List.eq_of_mem_replicate (show c ∈ List.replicate 5 '-' from hc)
  rfl

theorem tight_beginLine (label : List Char) : Text.Tight (beginLine label) :=
  tight_hyphens.append tight_hyphens (by decide) (by decide) ("BEGIN ".toList ++ label)

theorem tight_endLine (label : List Char) : Text.Tight (endLine label) :=
  tight_hyphens.append tight_hyphens (by decide) (by decide) ("END ".toList ++ label)

/-! ## Blocks -/

/-- The body grows by the lines up to the first END line. -/
theorem body_append (hparts : ∀ part ∈ parts, ∀ label, part ≠ endLine label) :
    body opened (parts ++ rest) = (body opened rest).map (parts.flatten ++ ·) := by
  induction parts with
  | nil => cases hrest : body opened rest <;> simp [hrest, Except.map]
  | cons part parts ih =>
    obtain ⟨hpart, hparts⟩ := List.forall_mem_cons.1 hparts
    rw [List.cons_append, body, endLabel?_eq_none_iff.2 hpart]
    simp only [ih hparts]
    cases body opened rest <;> simp [Except.map]

theorem body_endLine : body opened (endLine closed :: rest) =
    if closed ≠ opened then .error (.labelMismatch (String.ofList opened) (String.ofList closed))
    else if rest.isEmpty then .ok [] else .error .trailingData := by
  rw [body, endLabel?_endLine]

/-- The lines after a BEGIN line are a body just if the first END line among them has the label of the
BEGIN line and is the last. -/
theorem body_eq_ok_iff : body opened rest = .ok text ↔
    ∃ parts, rest = parts ++ [endLine opened] ∧ (∀ part ∈ parts, ∀ label, part ≠ endLine label) ∧
      text = parts.flatten := by
  constructor
  · intro h
    induction rest generalizing text with
    | nil => cases h
    | cons line rest ih =>
      cases hline : endLabel? line with
      | some closed =>
        obtain rfl := endLabel?_eq_some_iff.1 hline
        rw [body_endLine] at h
        split_ifs at h with hlabel hrest
        obtain rfl := not_not.1 hlabel
        obtain rfl := List.isEmpty_iff.1 hrest
        exact ⟨[], rfl, List.forall_mem_nil _, (Except.ok.inj h).symm⟩
      | none =>
        rw [body, hline] at h
        obtain ⟨text, htext, rfl⟩ := map_eq_ok_iff.1 h
        obtain ⟨parts, rfl, hparts, rfl⟩ := ih htext
        exact ⟨line :: parts, rfl, List.forall_mem_cons.2 ⟨endLabel?_eq_none_iff.1 hline, hparts⟩, rfl⟩
  · rintro ⟨parts, rfl, hparts, rfl⟩
    rw [body_append hparts, body_endLine]
    simp [Except.map]

/-- A text is PEM just if its lines are one block whose body is Base64. -/
theorem decode_eq_ok_iff : decode s = .ok b ↔ ∃ label parts, lines s = armor label parts ∧
    (∀ part ∈ parts, ∀ label, part ≠ endLine label) ∧ Base64.decode parts.flatten = .ok b := by
  constructor
  · intro h
    unfold decode at h
    split at h
    · cases h
    · next first rest hlines =>
      split at h
      · cases h
      · next label hlabel =>
        split at h
        · cases h
        · next text hbody =>
          obtain rfl := beginLabel?_eq_some_iff.1 hlabel
          obtain ⟨parts, rfl, hparts, rfl⟩ := body_eq_ok_iff.1 hbody
          exact ⟨label, parts, hlines, hparts, mapError_eq_ok_iff.1 h⟩
  · rintro ⟨label, parts, hlines, hparts, hdecode⟩
    have hbody : body label (parts ++ [endLine label]) = .ok parts.flatten :=
      body_eq_ok_iff.2 ⟨parts, rfl, hparts, rfl⟩
    rw [decode, hlines, armor_eq]
    simp only [beginLabel?_beginLine, hbody, hdecode, mapError_ok]

/-- The lines of a body are joined to Base64, in which no hyphen stands. -/
theorem hyphen_notMem_of_decode (h : Base64.decode parts.flatten = .ok b) : ∀ part ∈ parts, '-' ∉ part :=
  fun part hpart hc =>
    Base64.hyphen_notMem_of_decode h (List.mem_flatten.2 ⟨part, hpart, hc⟩)

theorem decode_of_lines (hlines : lines s = armor label parts)
    (hdecode : Base64.decode parts.flatten = .ok b) : decode s = .ok b :=
  decode_eq_ok_iff.2 ⟨label, parts, hlines, fun part hpart label heq =>
    hyphen_notMem_of_decode hdecode part hpart (heq ▸ hyphen_mem_endLine label), hdecode⟩

/-- A longer text is read like a block if it can be read only when it has the lines of the block. -/
theorem decode_eq_ok_iff_of_lines {p : Prop} {c : Bytes} (hs : decode s = .ok b)
    (hp : decode t = .ok c → p) (hlines : p → lines t = lines s) : decode t = .ok c ↔ p ∧ c = b := by
  have hsame (h : p) : decode t = .ok b := by
    rw [← hs, decode, decode, hlines h]
  constructor
  · intro h
    exact ⟨hp h, Except.ok.inj (h.symm.trans (hsame (hp h)))⟩
  · rintro ⟨h, rfl⟩
    exact hsame h

/-- A block that the first END line closes with another label. -/
theorem decode_of_mismatch (hlines : lines s = beginLine opened :: (parts ++ endLine closed :: rest))
    (hparts : ∀ part ∈ parts, ∀ label, part ≠ endLine label) (hne : closed ≠ opened) :
    decode s = .error (.labelMismatch (String.ofList opened) (String.ofList closed)) := by
  have hbody : body opened (parts ++ endLine closed :: rest) =
      .error (.labelMismatch (String.ofList opened) (String.ofList closed)) := by
    rw [body_append hparts, body_endLine, if_pos hne]
    rfl
  rw [decode, hlines]
  simp only [beginLabel?_beginLine, hbody]

/-! ## The lines of texts in a row -/

theorem lines_eq_nil_iff : lines s = [] ↔ Text.Blank s := by
  simp only [lines, List.filter_eq_nil_iff, List.forall_mem_map, Bool.not_eq_true, Bool.not_eq_false',
    List.isEmpty_iff, Text.trim_eq_nil_iff]
  constructor
  · intro h c hc
    rcases Text.mem_splitWhere (p := (· == '\n')) hc with hc | ⟨piece, hpiece, hc⟩
    · rw [eq_of_beq hc]
      rfl
    · exact h piece hpiece c hc
  · intro h piece hpiece c hc
    have hcs := (Text.split_eq_iff.1 (rfl : Text.split '\n' s = _)).2.2
    exact h c (hcs ▸ Text.mem_intercalate_of_mem hpiece hc)

/-- Two texts in a row have the lines of both, unless the last line of the one and the first of the other
are joined to one line. -/
theorem lines_append (s t : List Char) : lines (s ++ t) = lines s ++ lines t ∨
    ∃ front last mid first back, lines s = front ++ [last] ∧ lines t = first :: back ∧ last ≠ [] ∧
      first ≠ [] ∧ lines (s ++ t) = front ++ (last ++ mid ++ first) :: back := by
  obtain ⟨front, piece, following, back, hs, ht, hjoined⟩ := Text.splitWhere_append (· == '\n') s t
  simp only [lines, Text.split, hs, ht, hjoined, List.map_append, List.map_cons, List.map_nil,
    List.filter_append, List.filter_cons, List.filter_nil]
  rcases Text.trim_append piece following with
    ⟨hblank, htrim⟩ | ⟨hblank, htrim⟩ | ⟨hpiece, hfollowing, mid, htrim⟩
  · left
    simp [htrim, Text.trim_blank hblank]
  · left
    simp only [htrim, Text.trim_blank hblank]
    split <;> simp
  · right
    refine ⟨_, _, mid, _, _, by simp [hpiece]; rfl, by simp [hfollowing]; rfl, hpiece, hfollowing, ?_⟩
    simp [htrim, hpiece]

theorem lines_blank_append (ht : Text.Blank t) : lines (t ++ s) = lines s := by
  have hnil := lines_eq_nil_iff.2 ht
  rcases lines_append t s with h | ⟨front, last, mid, first, back, hlast, -⟩
  · rw [h, hnil, List.nil_append]
  · simp [hnil] at hlast

theorem lines_append_blank (ht : Text.Blank t) : lines (s ++ t) = lines s := by
  have hnil := lines_eq_nil_iff.2 ht
  rcases lines_append s t with h | ⟨front, last, mid, first, back, -, hfirst, -⟩
  · rw [h, hnil, List.append_nil]
  · simp [hnil] at hfirst

/-! ## Layouts -/

/-- The row shows the line: it is the line with blanks around it. -/
def Shows (row line : List Char) : Prop :=
  '\n' ∉ row ∧ ∃ left right, row = left ++ line ++ right ∧ Text.Blank left ∧ Text.Blank right

/-- The rows show a block, with blank rows around it. A blank row inside it shows an empty part. -/
def IsLayout (label : List Char) (parts rows : List (List Char)) : Prop :=
  ∃ before after, List.Forall₂ Shows rows
    (List.replicate before [] ++ armor label parts ++ List.replicate after [])

theorem lines_intercalate {shown : List (List Char)} (hrows : List.Forall₂ Shows rows shown)
    (htight : ∀ line ∈ shown, Text.Tight line) (hne : rows ≠ []) :
    lines (['\n'].intercalate rows) = shown.filter (!·.isEmpty) := by
  have hcut : (∀ row ∈ rows, '\n' ∉ row) ∧ rows.map Text.trim = shown := by
    clear hne
    induction hrows with
    | nil => exact ⟨List.forall_mem_nil _, rfl⟩
    | cons hrow _ ih =>
      obtain ⟨hline, htight⟩ := List.forall_mem_cons.1 htight
      obtain ⟨hrest, hshown⟩ := ih htight
      refine ⟨List.forall_mem_cons.2 ⟨hrow.1, hrest⟩, ?_⟩
      rw [List.map_cons, Text.trim_eq_iff.2 ⟨hline, hrow.2⟩, hshown]
  rw [lines, Text.split_eq_iff.2 ⟨hne, hcut.1, rfl⟩, hcut.2]

/-- However the lines of a block are laid out, its body is found. -/
theorem IsLayout.decode (h : IsLayout label parts rows) (hdecode : Base64.decode parts.flatten = .ok b) :
    decode (['\n'].intercalate rows) = .ok b := by
  obtain ⟨before, after, hrows⟩ := h
  have hne : rows ≠ [] := by
    rintro rfl
    simp [armor_eq] at hrows
  have hpart : ∀ part ∈ parts, Text.Tight part := fun part hpart =>
    Text.tight_of_forall fun c hc =>
      Base64.isBlank_of_decode hdecode (List.mem_flatten.2 ⟨part, hpart, hc⟩)
  have htight : ∀ line ∈ List.replicate before [] ++ armor label parts ++ List.replicate after [],
      Text.Tight line := by
    simp only [armor_eq, List.forall_mem_append, List.forall_mem_cons, List.mem_replicate]
    refine ⟨⟨?_, tight_beginLine label, hpart, tight_endLine label, List.forall_mem_nil _⟩, ?_⟩
    · rintro line ⟨-, rfl⟩
      exact Text.tight_nil
    · rintro line ⟨-, rfl⟩
      exact Text.tight_nil
  -- The lines are those of the block without the parts that are empty.
  have hlines : lines (['\n'].intercalate rows) = armor label (parts.filter (!·.isEmpty)) := by
    rw [lines_intercalate hrows htight hne, armor_eq, armor_eq]
    simp [beginLine_ne_nil, endLine_ne_nil]
  refine decode_of_lines hlines ?_
  rwa [List.flatten_filter_not_isEmpty]

/-! ## Texts around a block -/

/-- Of the lines of a block only the first and the last hold a hyphen. -/
theorem ends_of_hyphen {front back : List (List Char)}
    (harmor : armor label parts = front ++ line :: back)
    (hdecode : Base64.decode parts.flatten = .ok b) (hline : '-' ∈ line) :
    (front = [] ∧ line = beginLine label ∧ back = parts ++ [endLine label]) ∨
      (back = [] ∧ line = endLine label ∧ front = beginLine label :: parts) := by
  rw [armor_eq] at harmor
  cases front with
  | nil =>
    obtain ⟨rfl, rfl⟩ := List.cons.inj harmor
    exact .inl ⟨rfl, rfl, rfl⟩
  | cons first front =>
    rw [List.cons_append] at harmor
    obtain ⟨rfl, hrest⟩ := List.cons.inj harmor
    rcases List.eq_nil_or_concat' back with rfl | ⟨back, last, rfl⟩
    · obtain ⟨rfl, hlast⟩ := List.append_inj' hrest rfl
      exact .inr ⟨rfl, (List.cons.inj hlast).1.symm, rfl⟩
    · rw [← List.cons_append, ← List.append_assoc] at hrest
      obtain ⟨rfl, -⟩ := List.append_inj' hrest rfl
      exact absurd hline (hyphen_notMem_of_decode hdecode line (by simp))

theorem blank_of_decode_append_left (hs : decode s = .ok b) {c : Bytes}
    (h : decode (t ++ s) = .ok c) : Text.Blank t := by
  obtain ⟨label, parts, hlines, -, -⟩ := decode_eq_ok_iff.1 hs
  obtain ⟨label', parts', hlines', -, hdecode⟩ := decode_eq_ok_iff.1 h
  rw [armor_eq] at hlines
  rcases lines_append t s with hjoined | ⟨front, last, mid, first, back, -, hfirst, hne, -, hjoined⟩
  · rw [hlines, hlines'] at hjoined
    rcases ends_of_hyphen hjoined hdecode (hyphen_mem_beginLine label) with ⟨hnil, -⟩ | ⟨hnil, -⟩
    · exact lines_eq_nil_iff.1 hnil
    · simp at hnil
  · rw [hlines] at hfirst
    obtain ⟨rfl, rfl⟩ := List.cons.inj hfirst
    rw [hlines'] at hjoined
    have hhyphen : '-' ∈ last ++ mid ++ beginLine label :=
      List.mem_append_right _ (hyphen_mem_beginLine label)
    rcases ends_of_hyphen hjoined hdecode hhyphen with ⟨-, hbegin, hend⟩ | ⟨hnil, -⟩
    · -- The END lines agree, so the BEGIN lines do, and nothing precedes the one in the text.
      obtain ⟨-, hend⟩ := List.append_inj' hend rfl
      obtain rfl := endLine_inj.1 (List.cons.inj hend).1
      exact absurd (List.append_eq_nil_iff.1 (List.append_left_eq_self.1 hbegin)).1 hne
    · simp at hnil

theorem blank_of_decode_append_right (hs : decode s = .ok b) {c : Bytes}
    (h : decode (s ++ t) = .ok c) : Text.Blank t := by
  obtain ⟨label, parts, hlines, -, -⟩ := decode_eq_ok_iff.1 hs
  obtain ⟨label', parts', hlines', -, hdecode⟩ := decode_eq_ok_iff.1 h
  rw [armor_eq, ← List.cons_append] at hlines
  rcases lines_append s t with hjoined | ⟨front, last, mid, first, back, hlast, -, -, hne, hjoined⟩
  · rw [hlines, hlines', List.append_assoc, List.singleton_append] at hjoined
    rcases ends_of_hyphen hjoined hdecode (hyphen_mem_endLine label) with ⟨hnil, -⟩ | ⟨hnil, -⟩
    · simp at hnil
    · exact lines_eq_nil_iff.1 hnil
  · rw [hlines] at hlast
    obtain ⟨rfl, hend⟩ := List.append_inj' hlast rfl
    obtain rfl := (List.cons.inj hend).1
    rw [hlines'] at hjoined
    have hhyphen : '-' ∈ endLine label ++ mid ++ first := by
      rw [List.append_assoc]
      exact List.mem_append_left _ (hyphen_mem_endLine label)
    rcases ends_of_hyphen hjoined hdecode hhyphen with ⟨hnil, -⟩ | ⟨-, hend, hbegin⟩
    · simp at hnil
    · obtain rfl := beginLine_inj.1 (List.cons.inj hbegin).1
      simp [hne] at hend

end Pem

namespace Encoding

open Pem

theorem decodeText_pem_eq_ok_iff {s : String} {b : Bytes} :
    decodeText .pem s = .ok b ↔ Pem.decode s.toList = .ok b :=
  mapError_eq_ok_iff

theorem decodeText_pem_left_iff {s t : String} {b c : Bytes} (h : decodeText .pem s = .ok b) :
    decodeText .pem (t ++ s) = .ok c ↔ Text.Blank t.toList ∧ c = b := by
  simp only [decodeText_pem_eq_ok_iff, String.toList_append] at h ⊢
  exact decode_eq_ok_iff_of_lines h (blank_of_decode_append_left h) lines_blank_append

theorem decodeText_pem_right_iff {s t : String} {b c : Bytes} (h : decodeText .pem s = .ok b) :
    decodeText .pem (s ++ t) = .ok c ↔ Text.Blank t.toList ∧ c = b := by
  simp only [decodeText_pem_eq_ok_iff, String.toList_append] at h ⊢
  exact decode_eq_ok_iff_of_lines h (blank_of_decode_append_right h) lines_append_blank

/-- A text is PEM just if its lines are one block. Every layout of a block is read, and nothing but blanks
may be added before or after it, not even another block; a block closed with another label is refused as
such. -/
theorem pem_reads_one_block :
    (∀ s b, decodeText .pem s = .ok b ↔ ∃ label parts, lines s.toList = armor label parts ∧
      (∀ part ∈ parts, ∀ other, part ≠ endLine other) ∧ Base64.decode parts.flatten = .ok b) ∧
    (∀ label parts rows b, parts.flatten = Base64.encode b → IsLayout label parts rows →
      decodeText .pem (String.ofList (['\n'].intercalate rows)) = .ok b) ∧
    (∀ s b, decodeText .pem s = .ok b → ∀ t c,
      (decodeText .pem (t ++ s) = .ok c ↔ Text.Blank t.toList ∧ c = b) ∧
      (decodeText .pem (s ++ t) = .ok c ↔ Text.Blank t.toList ∧ c = b)) ∧
    (∀ s b t c, decodeText .pem s = .ok b → decodeText .pem t = .ok c →
      ∀ between d, decodeText .pem (s ++ (between ++ t)) ≠ .ok d) ∧
    (∀ s opened closed parts rest,
      lines s.toList = beginLine opened :: (parts ++ endLine closed :: rest) →
      (∀ part ∈ parts, ∀ other, part ≠ endLine other) → closed ≠ opened →
      decodeText .pem s =
        .error (.pem (.labelMismatch (String.ofList opened) (String.ofList closed)))) := by
  refine ⟨fun s b => ?_, fun label parts rows b hbody hrows => ?_, fun s b h t c => ?_,
    fun s b t c hs ht between d h => ?_, fun s opened closed parts rest hlines hparts hne => ?_⟩
  · rw [decodeText_pem_eq_ok_iff, decode_eq_ok_iff]
  · rw [decodeText_pem_eq_ok_iff, String.toList_ofList]
    exact hrows.decode (hbody ▸ Base64.decode_encode b)
  · exact ⟨decodeText_pem_left_iff h, decodeText_pem_right_iff h⟩
  · -- What follows the first block has the lines of the second, so it is not blank.
    have hblank := ((decodeText_pem_right_iff hs).1 h).1
    rw [String.toList_append] at hblank
    have hnil := lines_eq_nil_iff.2 fun c hc => hblank c (List.mem_append_right _ hc)
    obtain ⟨label, parts, hlines, -⟩ := decode_eq_ok_iff.1 (decodeText_pem_eq_ok_iff.1 ht)
    simp [hnil, armor_eq] at hlines
  · exact congrArg (Except.mapError Encoding.Fault.pem) (decode_of_mismatch hlines hparts hne)

/-- Two bytes in two lines, indented, after a blank line and with carriage returns. -/
def indentedText : String :=
  "\r\n  -----BEGIN K-----\r\n\tAQ\r\n\tI=\r\n  -----END K-----\r\n"

theorem indented_rows_read : decodeText .pem indentedText = .ok [1, 2] ∧
    ∀ c, decodeText .pem ("Key:" ++ indentedText) ≠ .ok c := by
  obtain ⟨-, hlayouts, haround, -⟩ := pem_reads_one_block
  have hread : decodeText .pem indentedText = .ok [1, 2] := by
    refine hlayouts ['K'] [['A', 'Q'], ['I', '=']]
      ["\r".toList, "  -----BEGIN K-----\r".toList, "\tAQ\r".toList, "\tI=\r".toList,
        "  -----END K-----\r".toList, []] [1, 2] rfl ⟨1, 1, ?_⟩
    have hblank : Text.Blank [' ', ' '] ∧ Text.Blank ['\t'] ∧ Text.Blank ['\r'] := by
      simp [Text.Blank, Text.isBlank]
    obtain ⟨hspaces, htab, hreturn⟩ := hblank
    exact .cons ⟨by decide, [], _, rfl, Text.blank_nil, hreturn⟩
      (.cons ⟨by decide, _, _, rfl, hspaces, hreturn⟩
      (.cons ⟨by decide, _, _, rfl, htab, hreturn⟩
      (.cons ⟨by decide, _, _, rfl, htab, hreturn⟩
      (.cons ⟨by decide, _, _, rfl, hspaces, hreturn⟩
      (.cons ⟨by decide, [], [], rfl, Text.blank_nil, Text.blank_nil⟩ .nil)))))
  refine ⟨hread, fun c hc => ?_⟩
  have hblank := ((haround _ _ hread "Key:" c).1.1 hc).1
  exact absurd (hblank 'K' (by simp)) (by decide)

end Encoding

end DidAdmission
