-- SUMMARY: The grammar of identifiers, and what a text outside of it is refused for.
import DidAdmission.Proofs.Identifier.Form
import DidAdmission.Proofs.Identifier.Uuid

/-!
# The grammar of identifiers

An identifier is `did`, a method, a network and a UUID between colons (`Form`). `Reading` says what becomes
of any text: it names the first of the scheme, the form, the digits of the UUID and the network that is not
as it should be. The UUID stands for sixteen bytes, of which its lower-case text is the hyphenated form.
-/

namespace DidAdmission

/-! ## Networks -/

/-- The names of the known networks. -/
def Network.listedNames : List String := ["main", "test", "dev", "net"]

theorem Network.ofName?_eq_some_iff {name : String} {network : Network} :
    ofName? name = some network ↔ network.isListed = true ∧ network.name = name := by
  constructor
  · intro h
    rw [ofName?] at h
    have hknown : ∀ network ∈ known, network.isListed = true := by decide
    have hname := List.find?_some h
    exact ⟨hknown network (List.mem_of_find?_eq_some h), eq_of_beq hname⟩
  · rintro ⟨hlisted, rfl⟩
    cases network with
    | main => rfl
    | test => rfl
    | dev => rfl
    | net => rfl
    | unlisted name => cases hlisted

theorem Network.ofName?_eq_none_iff {name : String} :
    ofName? name = none ↔ name ∉ listedNames := by
  have hnames : listedNames = known.map Network.name := rfl
  rw [ofName?, List.find?_eq_none, hnames, List.mem_map]
  simp only [beq_iff_eq, not_exists, not_and]

namespace Identifier

/-! ## Segments -/

theorem isMethodName_iff {segment : List Char} :
    isNameOf isMethodChar segment = true ↔
      segment ≠ [] ∧ ∀ c ∈ segment, c.isLower = true ∨ c.isDigit = true := by
  simp [isNameOf, isMethodChar]

theorem isNetworkName_iff {segment : List Char} :
    isNameOf isNetworkChar segment = true ↔
      segment ≠ [] ∧ ∀ c ∈ segment, c.isAlphanum = true ∨ c ∈ ['-', '_', '.'] := by
  simp [isNameOf, isNetworkChar, or_assoc]

/-! ## The form -/

/-- The text is an identifier with the given segments, as far as their characters tell; of the letters in
the UUID nothing is asked. -/
structure Form (input method network uuid : String) : Prop where
  text : input = "did:" ++ method ++ ":" ++ network ++ ":" ++ uuid
  method : method.toList ≠ [] ∧ ∀ c ∈ method.toList, c.isLower = true ∨ c.isDigit = true
  network : network.toList ≠ [] ∧
    ∀ c ∈ network.toList, c.isAlphanum = true ∨ c ∈ ['-', '_', '.']
  uuid : Grouped (·.isAlphanum = true) Uuid.groupLengths uuid.toList

theorem form_iff {input method network uuid : String} :
    Form input method network uuid ↔
      Text.split ':' input.toList =
          [['d', 'i', 'd'], method.toList, network.toList, uuid.toList] ∧
        isNameOf isMethodChar method.toList = true ∧
        isNameOf isNetworkChar network.toList = true ∧ isUuidShaped uuid.toList = true := by
  rw [isMethodName_iff, isNetworkName_iff, isUuidShaped_iff, Text.split_eq_iff]
  constructor
  · rintro ⟨rfl, hmethod, hnetwork, huuid⟩
    refine ⟨⟨List.cons_ne_nil _ _, ?_, by simp⟩, hmethod, hnetwork, huuid⟩
    -- The characters of each segment exclude the colon.
    simp only [List.forall_mem_cons]
    refine ⟨by decide, fun hcolon => ?_, fun hcolon => ?_, fun hcolon => ?_, List.forall_mem_nil _⟩
    · exact absurd (hmethod.2 ':' hcolon) (by decide)
    · exact absurd (hnetwork.2 ':' hcolon) (by decide)
    · exact absurd (huuid.mem hcolon) (by decide)
  · rintro ⟨⟨-, -, htext⟩, hmethod, hnetwork, huuid⟩
    refine ⟨String.toList_inj.1 ?_, hmethod, hnetwork, huuid⟩
    simpa using htext

/-! ## What a text is read as -/

/-- What becomes of a text: it is an identifier, or refused for the first of its scheme, its form, the
digits of its UUID and its network that is not as it should be. -/
inductive Reading (policy : NetworkPolicy) (input : String) : Except Failure Identifier → Prop
  | accepted {method uuid : String} {network : Network}
      (form : Form input method network.name uuid)
      (digits : Grouped (· ∈ Hex.digits) Uuid.groupLengths uuid.toList)
      (listed : network.isListed = true ↔ network.name ∈ Network.listedNames)
      (admitted : policy = .strict → network.name ∈ Network.listedNames) :
      Reading policy input (.ok ⟨input, method, network, uuid⟩)
  | invalidScheme (scheme : input.toList.takeWhile (· != ':') ≠ ['d', 'i', 'd']) :
      Reading policy input (.error (.invalidScheme input))
  | malformed (scheme : input.toList.takeWhile (· != ':') = ['d', 'i', 'd'])
      (formless : ∀ method network uuid, ¬ Form input method network uuid) :
      Reading policy input (.error (.malformed input))
  | invalidUuid {method network uuid : String} (form : Form input method network uuid)
      (foreign : ∃ c ∈ uuid.toList, c ≠ '-' ∧ c ∉ Hex.digits) :
      Reading policy input (.error (.invalidUuid uuid))
  | invalidNetwork {method network uuid : String} (form : Form input method network uuid)
      (digits : Grouped (· ∈ Hex.digits) Uuid.groupLengths uuid.toList)
      (unlisted : network ∉ Network.listedNames) (strict : policy = .strict) :
      Reading policy input (.error (.invalidNetwork network))

variable {policy : NetworkPolicy} {input method network uuid : String}

/-- A text that has the form is read by the digits of its UUID and by its network. -/
theorem parse_of_form (h : Form input method network uuid) :
    parse policy input =
      if isHexadecimal uuid.toList then
        (networkOf policy network).map fun found => ⟨input, method, found, uuid⟩
      else .error (.invalidUuid uuid) := by
  obtain ⟨hsplit, hmethod, hnetwork, huuid⟩ := form_iff.1 h
  simp [parse, hsplit, hmethod, hnetwork, huuid]

/-- A text of another scheme is refused for the scheme. -/
theorem parse_of_scheme (h : input.toList.takeWhile (· != ':') ≠ ['d', 'i', 'd']) :
    parse policy input = .error (.invalidScheme input) := by
  have hhead := Text.head?_split ':' input.toList
  rw [parse]
  split
  · next scheme segments hsplit =>
    rw [hsplit] at hhead
    obtain rfl := Option.some.inj hhead
    rw [if_pos h]
  · rfl

/-- A text of the scheme that does not have the form is malformed. -/
theorem parse_of_formless (hscheme : input.toList.takeWhile (· != ':') = ['d', 'i', 'd'])
    (h : ∀ method network uuid, ¬ Form input method network uuid) :
    parse policy input = .error (.malformed input) := by
  have hhead := Text.head?_split ':' input.toList
  rw [parse]
  split
  · next scheme segments hsplit =>
    rw [hsplit, hscheme] at hhead
    obtain rfl := Option.some.inj hhead
    rw [if_neg (by simp)]
    split
    · next method network uuid =>
      rw [if_neg]
      intro hshape
      simp only [Bool.and_eq_true] at hshape
      refine h (String.ofList method) (String.ofList network) (String.ofList uuid) (form_iff.2 ?_)
      simpa only [String.toList_ofList] using ⟨hsplit, hshape.1.1, hshape.1.2, hshape.2⟩
    · rfl
  · next hsplit => exact absurd hsplit (Text.splitWhere_ne_nil _ _)

/-- The digits of a UUID stand in its groups. -/
theorem Form.grouped_digits (h : Form input method network uuid)
    (hdigits : isHexadecimal uuid.toList = true) :
    Grouped (· ∈ Hex.digits) Uuid.groupLengths uuid.toList := by
  refine h.uuid.imp fun c hc halphanum => ?_
  rcases isHexadecimal_iff.1 hdigits c hc with rfl | hdigit
  · exact absurd halphanum (by decide)
  · exact hdigit

/-- The network that is found has the name that was asked for, and is listed just if the name is. -/
theorem networkOf_eq_ok_iff {name : String} {found : Network} :
    networkOf policy name = .ok found ↔
      found.name = name ∧ (found.isListed = true ↔ name ∈ Network.listedNames) ∧
        (policy = .strict → name ∈ Network.listedNames) := by
  cases hknown : Network.ofName? name with
  | some network =>
    obtain ⟨hlisted, hname⟩ := Network.ofName?_eq_some_iff.1 hknown
    have hmem : name ∈ Network.listedNames := by
      by_contra hunlisted
      rw [Network.ofName?_eq_none_iff.2 hunlisted] at hknown
      cases hknown
    have hok : networkOf policy name = .ok network := by simp [networkOf, hknown]
    rw [hok]
    constructor
    · rintro ⟨⟩
      exact ⟨hname, iff_of_true hlisted hmem, fun _ => hmem⟩
    · rintro ⟨hfound, hiff, -⟩
      have hsame := Network.ofName?_eq_some_iff.2 ⟨hiff.2 hmem, hfound⟩
      rw [Option.some.inj (hknown.symm.trans hsame)]
  | none =>
    have hunlisted := Network.ofName?_eq_none_iff.1 hknown
    cases policy with
    | strict => simp [networkOf, hknown, hunlisted]
    | lenient =>
      have hok : networkOf .lenient name = .ok (.unlisted name) := by simp [networkOf, hknown]
      rw [hok]
      constructor
      · rintro ⟨⟩
        exact ⟨rfl, iff_of_false Bool.false_ne_true hunlisted, nofun⟩
      · rintro ⟨rfl, hiff, -⟩
        cases found with
        | unlisted name => rfl
        | main | test | dev | net => exact absurd (hiff.1 rfl) hunlisted

/-- A network that is refused is not listed. -/
theorem networkOf_eq_error_iff {name : String} {failure : Failure} :
    networkOf policy name = .error failure ↔
      failure = .invalidNetwork name ∧ name ∉ Network.listedNames ∧ policy = .strict := by
  rw [← Network.ofName?_eq_none_iff]
  cases hknown : Network.ofName? name with
  | some network => simp [networkOf, hknown]
  | none =>
    cases policy with
    | strict => simp [networkOf, hknown, eq_comm]
    | lenient => simp [networkOf, hknown]

/-- What the parser says of a text is a reading of it. -/
theorem reading_parse (policy : NetworkPolicy) (input : String) :
    Reading policy input (parse policy input) := by
  by_cases hscheme : input.toList.takeWhile (· != ':') = ['d', 'i', 'd']
  case neg =>
    rw [parse_of_scheme hscheme]
    exact .invalidScheme hscheme
  by_cases hform : ∃ method network uuid, Form input method network uuid
  case neg =>
    have hformless : ∀ method network uuid, ¬ Form input method network uuid :=
      fun method network uuid h => hform ⟨method, network, uuid, h⟩
    rw [parse_of_formless hscheme hformless]
    exact .malformed hscheme hformless
  obtain ⟨method, network, uuid, hform⟩ := hform
  rw [parse_of_form hform]
  by_cases hdigits : isHexadecimal uuid.toList = true
  case neg =>
    rw [if_neg hdigits]
    exact .invalidUuid hform (not_isHexadecimal_iff.1 hdigits)
  rw [if_pos hdigits]
  cases hfound : networkOf policy network with
  | error failure =>
    obtain ⟨rfl, hunlisted, hstrict⟩ := networkOf_eq_error_iff.1 hfound
    exact .invalidNetwork hform (hform.grouped_digits hdigits) hunlisted hstrict
  | ok found =>
    obtain ⟨rfl, hlisted, hadmitted⟩ := networkOf_eq_ok_iff.1 hfound
    exact .accepted hform (hform.grouped_digits hdigits) hlisted hadmitted

/-- A text has one reading, and the parser says it. -/
theorem Reading.eq_parse {result : Except Failure Identifier} (h : Reading policy input result) :
    parse policy input = result := by
  cases h with
  | accepted form digits listed admitted =>
    rw [parse_of_form form, if_pos (isHexadecimal_of_grouped digits),
      networkOf_eq_ok_iff.2 ⟨rfl, listed, admitted⟩]
    rfl
  | invalidScheme scheme => exact parse_of_scheme scheme
  | malformed scheme formless => exact parse_of_formless scheme formless
  | invalidUuid form foreign => rw [parse_of_form form, if_neg (not_isHexadecimal_iff.2 foreign)]
  | invalidNetwork form digits unlisted strict =>
    rw [parse_of_form form, if_pos (isHexadecimal_of_grouped digits),
      networkOf_eq_error_iff.2 ⟨rfl, unlisted, strict⟩]
    rfl

theorem parse_eq_iff {result : Except Failure Identifier} :
    parse policy input = result ↔ Reading policy input result :=
  ⟨fun h => h ▸ reading_parse policy input, Reading.eq_parse⟩

/-! ## The parser and its grammar -/

/-- A text is an identifier just if it has the form, its UUID is of digits and the policy admits its
network. -/
theorem exists_parse_iff :
    (∃ id, parse policy input = .ok id) ↔
      ∃ method network uuid, Form input method network uuid ∧
        Grouped (· ∈ Hex.digits) Uuid.groupLengths uuid.toList ∧
        (policy = .strict → network ∈ Network.listedNames) := by
  constructor
  · rintro ⟨id, hid⟩
    cases parse_eq_iff.1 hid with
    | accepted form digits listed admitted => exact ⟨_, _, _, form, digits, admitted⟩
  · rintro ⟨method, network, uuid, form, digits, admitted⟩
    rw [parse_of_form form, if_pos (isHexadecimal_of_grouped digits)]
    cases hfound : networkOf policy network with
    | ok found => exact ⟨_, rfl⟩
    | error failure =>
      obtain ⟨-, hunlisted, hstrict⟩ := networkOf_eq_error_iff.1 hfound
      exact absurd (admitted hstrict) hunlisted

/-- The UUID of an identifier writes sixteen bytes, and in lower case it is their text. -/
theorem value_of_parse {id : Identifier} (h : parse policy input = .ok id) :
    ∃ value : Bytes, value.length = 16 ∧ Hex.decode (id.uuid.toList.filter (· != '-')) = .ok value ∧
      String.ofList (Uuid.text value) = id.uuidText := by
  cases parse_eq_iff.1 h with
  | accepted form digits listed admitted =>
    obtain ⟨value, hlength, hvalue, htext⟩ := Uuid.exists_value digits
    exact ⟨value, hlength, hvalue, by rw [htext, uuidText]⟩

/-- The policies differ in the networks that are not listed and in nothing else. -/
theorem parse_strict_eq_parse_lenient_iff :
    parse .strict input = parse .lenient input ↔
      ∀ segment, parse .strict input ≠ .error (.invalidNetwork segment) := by
  constructor
  · intro h segment hrefused
    rw [h] at hrefused
    cases parse_eq_iff.1 hrefused with
    | invalidNetwork form digits unlisted strict => cases strict
  · intro h
    refine (Reading.eq_parse ?_).symm
    -- Of the readings only one depends on the policy.
    cases hresult : parse .strict input with
    | ok id =>
      cases parse_eq_iff.1 hresult with
      | accepted form digits listed admitted => exact .accepted form digits listed nofun
    | error failure =>
      cases parse_eq_iff.1 hresult with
      | invalidScheme scheme => exact .invalidScheme scheme
      | malformed scheme formless => exact .malformed scheme formless
      | invalidUuid form foreign => exact .invalidUuid form foreign
      | invalidNetwork form digits unlisted strict => exact absurd hresult (h _)

/-- The parser accepts its grammar and nothing else, refuses every other text for the first fault in it, and
under either policy says the same of a text, unless its network is all there is against it. -/
theorem parse_by_grammar (input : String) :
    (∀ policy, (∃ id, parse policy input = .ok id) ↔
      ∃ method network uuid, Form input method network uuid ∧
        Grouped (· ∈ Hex.digits) Uuid.groupLengths uuid.toList ∧
        (policy = .strict → network ∈ Network.listedNames)) ∧
    (∀ policy result, parse policy input = result ↔ Reading policy input result) ∧
    (∀ policy id, parse policy input = .ok id → ∃ value : Bytes, value.length = 16 ∧
      Hex.decode (id.uuid.toList.filter (· != '-')) = .ok value ∧
      String.ofList (Uuid.text value) = id.uuidText) ∧
    (parse .strict input = parse .lenient input ↔
      ∀ segment, parse .strict input ≠ .error (.invalidNetwork segment)) :=
  ⟨fun _ => exists_parse_iff, fun _ _ => parse_eq_iff, fun _ _ => value_of_parse,
    parse_strict_eq_parse_lenient_iff⟩

/-- The UUID of an identifier whose digits are of both cases. -/
theorem mixedCase_by_grammar :
    parse .strict "did:op:test:6A7f0c2E-1b3D-4c5e-8F90-aBcDeF012345" =
      .ok ⟨"did:op:test:6A7f0c2E-1b3D-4c5e-8F90-aBcDeF012345", "op", .test,
        "6A7f0c2E-1b3D-4c5e-8F90-aBcDeF012345"⟩ ∧
    ∃ value : Bytes, value.length = 16 ∧
      Hex.decode "6A7f0c2E1b3D4c5e8F90aBcDeF012345".toList = .ok value ∧
      String.ofList (Uuid.text value) = "6a7f0c2e-1b3d-4c5e-8f90-abcdef012345" := by
  have hparse : parse .strict "did:op:test:6A7f0c2E-1b3D-4c5e-8F90-aBcDeF012345" =
      .ok ⟨"did:op:test:6A7f0c2E-1b3D-4c5e-8F90-aBcDeF012345", "op", .test,
        "6A7f0c2E-1b3D-4c5e-8F90-aBcDeF012345"⟩ := by decide +kernel
  obtain ⟨value, hlength, hvalue, htext⟩ := (parse_by_grammar _).2.2.1 _ _ hparse
  have hdigits : "6A7f0c2E-1b3D-4c5e-8F90-aBcDeF012345".toList.filter (· != '-') =
      "6A7f0c2E1b3D4c5e8F90aBcDeF012345".toList := by decide +kernel
  have hlower : uuidText ⟨"did:op:test:6A7f0c2E-1b3D-4c5e-8F90-aBcDeF012345", "op", .test,
      "6A7f0c2E-1b3D-4c5e-8F90-aBcDeF012345"⟩ = "6a7f0c2e-1b3d-4c5e-8f90-abcdef012345" := by
    decide +kernel
  exact ⟨hparse, value, hlength, hdigits ▸ hvalue, htext.trans hlower⟩

end Identifier

end DidAdmission
