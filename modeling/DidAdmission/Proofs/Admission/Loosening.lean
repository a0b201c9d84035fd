-- SUMMARY: A profile that asks for less accepts more, and what it accepts beyond is known.
import DidAdmission.Proofs.Admission.Calls
import DidAdmission.Proofs.Admission.KeyIds
import DidAdmission.Proofs.Admission.Rejections
import DidAdmission.Proofs.History.Transition
import DidAdmission.Proofs.Identifier.Form

/-!
# Looser profiles

Of two profiles with one deletion policy, one may count signatures less strictly, support more suites or
admit more networks. Three checks then pass more often, and no other check reads these settings. So
whatever the stricter profile accepts the looser one accepts, and where only the looser one accepts, the
stricter one reports one of these three checks.
-/

namespace DidAdmission

/-! ## Computations that fail less often -/

/-- What the first computation answers, so does the second one. Where the second one answers, the first
one fails only with errors that are excused. -/
structure Relaxes {ε α : Type} (excused : ε → Prop) (x x' : Except ε α) : Prop where
  keeps : ∀ a, x = .ok a → x' = .ok a
  excuses : ∀ a r, x' = .ok a → x = .error r → excused r

namespace Relaxes

variable {ε ε' α β : Type} {excused : ε → Prop} {x x' : Except ε α}

theorem refl (x : Except ε α) : Relaxes excused x x where
  keeps := fun _ h => h
  excuses := fun _ _ hok herror => nomatch hok.symm.trans herror

theorem bind {f f' : α → Except ε β} (hx : Relaxes excused x x')
    (hf : ∀ a, x' = .ok a → Relaxes excused (f a) (f' a)) :
    Relaxes excused (x >>= f) (x' >>= f') where
  keeps := by
    intro b h
    obtain ⟨a, ha, hb⟩ := bind_eq_ok_iff.1 h
    have ha' := hx.keeps a ha
    exact bind_eq_ok_iff.2 ⟨a, ha', (hf a ha').keeps b hb⟩
  excuses := by
    intro b r hok herror
    obtain ⟨a, ha, hb⟩ := bind_eq_ok_iff.1 hok
    rcases bind_eq_error_iff.1 herror with hx' | ⟨c, hc, hr⟩
    · exact hx.excuses a r ha hx'
    · obtain rfl : a = c := Except.ok.inj (ha.symm.trans (hx.keeps c hc))
      exact (hf a ha).excuses b r hb hr

theorem mapError {excused' : ε' → Prop} {f : ε → ε'} (hf : ∀ e, excused e → excused' (f e))
    (hx : Relaxes excused x x') : Relaxes excused' (x.mapError f) (x'.mapError f) where
  keeps := fun a h => mapError_eq_ok_iff.2 (hx.keeps a (mapError_eq_ok_iff.1 h))
  excuses := by
    intro a r hok herror
    obtain ⟨e, he, rfl⟩ := mapError_eq_error_iff.1 herror
    exact hf e (hx.excuses a e (mapError_eq_ok_iff.1 hok) he)

end Relaxes

/-! ## Two profiles -/

/-- The profile asks for no more than the strict one. -/
structure Profile.Loosens (loose strict : Profile) : Prop where
  deletion : loose.deletion = strict.deletion
  suites : ∀ suite, strict.supports suite = true → loose.supports suite = true
  count : loose.signatureCount = .atLeast ∨ loose.signatureCount = strict.signatureCount
  network : loose.strictNetwork = false ∨ loose.strictNetwork = strict.strictNetwork

/-- What only the stricter one of two profiles rejects an envelope for. -/
inductive Envelope.OnlyStrict (loose strict : Profile) (e : Envelope) : Rejection → Prop
  | signatureCount {keys : List PublicKey} {signatures : List Signature}
    (haction : e.action = .ok .create) (hexact : strict.signatureCount = .exactForCreation)
    (hkeys : e.document.publicKeys = .ok keys) (hsignatures : e.instruction.signatures = .ok signatures)
    (hmore : keys.length < signatures.length) :
    OnlyStrict loose strict e (.signatureCount keys.length signatures.length)
  | suite {suite : Suite} (hstrict : strict.supports suite = false)
    (hloose : loose.supports suite = true) :
    OnlyStrict loose strict e (.unsupportedSuite suite)
  | network {name : String} (hstrict : strict.strictNetwork = true)
    (hloose : loose.strictNetwork = false) (hunlisted : Network.ofName? name = none) :
    OnlyStrict loose strict e (.malformedDocument (.invalidDocument (.invalidNetwork name)))

/-! ## The three checks -/

theorem Identifier.networkOf_relaxes (name : String) :
    Relaxes (fun failure => Network.ofName? name = none ∧ .invalidNetwork name = failure)
      (networkOf .strict name) (networkOf .lenient name) := by
  unfold networkOf
  cases hname : Network.ofName? name with
  | some network => exact .refl _
  | none =>
    refine ⟨nofun, ?_⟩
    intro network failure _ herror
    exact ⟨rfl, Except.error.inj herror⟩

/-- The lenient policy reads more identifiers, those of unlisted networks. -/
theorem Identifier.parse_relaxes (input : String) :
    Relaxes (fun failure => ∃ name, Network.ofName? name = none ∧ .invalidNetwork name = failure)
      (parse .strict input) (parse .lenient input) := by
  constructor
  · intro id h
    obtain ⟨method, network, uuid, found, hsplit, hmethod, hnetwork, huuid, hhex, hfound, hid⟩ :=
      parse_eq_ok_iff.1 h
    exact parse_eq_ok_iff.2 ⟨method, network, uuid, found, hsplit, hmethod, hnetwork, huuid, hhex,
      (networkOf_relaxes _).keeps found hfound, hid⟩
  · intro id failure hok herror
    obtain ⟨method, network, uuid, found, hsplit, hmethod, hnetwork, huuid, hhex, hfound, -⟩ :=
      parse_eq_ok_iff.1 hok
    -- But for the network, the strict policy finds the pieces that the lenient one has found.
    have hmap : parse .strict input = (networkOf .strict (String.ofList network)).map fun found =>
        ⟨input, String.ofList method, found, String.ofList uuid⟩ := by
      simp [parse, hsplit, hmethod, hnetwork, huuid, hhex]
    rw [hmap] at herror
    cases hstrict : networkOf .strict (String.ofList network) with
    | ok found' => simp [hstrict, Except.map] at herror
    | error failure' =>
      rw [hstrict] at herror
      obtain rfl : failure' = failure := Except.error.inj herror
      exact ⟨_, (networkOf_relaxes _).excuses found failure' hfound hstrict⟩

section

variable {loose strict : Profile}

theorem Document.id_relaxes (h : loose.Loosens strict) (e : Envelope) (d : Document) :
    Relaxes (e.OnlyStrict loose strict)
      ((d.id strict.networkPolicy).mapError .malformedDocument)
      ((d.id loose.networkPolicy).mapError .malformedDocument) := by
  by_cases hsame : loose.strictNetwork = strict.strictNetwork
  · rw [Profile.networkPolicy, Profile.networkPolicy, hsame]
    exact .refl _
  · have hloose := h.network.resolve_right hsame
    have hstrict : strict.strictNetwork = true := by simpa [hloose] using hsame
    have hstrictPolicy : strict.networkPolicy = .strict := by simp [Profile.networkPolicy, hstrict]
    have hloosePolicy : loose.networkPolicy = .lenient := by simp [Profile.networkPolicy, hloose]
    rw [hstrictPolicy, hloosePolicy, Document.id, Document.id]
    cases d.submission.object.string "id" with
    | error failure => exact .refl _
    | ok text =>
      have hid : Relaxes (fun failure : ReadFailure => ∃ name, Network.ofName? name = none ∧
          .invalidDocument (.invalidNetwork name) = failure)
          ((Identifier.parse .strict text).mapError .invalidDocument)
          ((Identifier.parse .lenient text).mapError .invalidDocument) := by
        refine (Identifier.parse_relaxes text).mapError ?_
        rintro _ ⟨name, hunlisted, rfl⟩
        exact ⟨name, hunlisted, rfl⟩
      refine hid.mapError ?_
      rintro _ ⟨name, hunlisted, rfl⟩
      exact .network hstrict hloose hunlisted

theorem Check.supportedSuites_relaxes (h : loose.Loosens strict) (e : Envelope)
    (keys : List PublicKey) :
    Relaxes (e.OnlyStrict loose strict) (supportedSuites strict keys)
      (supportedSuites loose keys) where
  keeps := by
    rintro ⟨⟩ hok
    rw [supportedSuites_eq_ok_iff] at hok ⊢
    exact fun key hkey => h.suites key.suite (hok key hkey)
  excuses := by
    rintro ⟨⟩ r hok herror
    obtain ⟨key, hfirst, rfl⟩ := supportedSuites_eq_error_iff.1 herror
    exact .suite hfirst.holds (supportedSuites_eq_ok_iff.1 hok key hfirst.mem)

theorem Check.signatureCount_relaxes (h : loose.Loosens strict) {e : Envelope} {stage : Stage}
    (hstage : stage = .creation → e.action = .ok .create) {keys : List PublicKey}
    {signatures : List Signature} (hkeys : e.document.publicKeys = .ok keys)
    (hsignatures : e.instruction.signatures = .ok signatures) :
    Relaxes (e.OnlyStrict loose strict)
      (signatureCount strict stage keys.length signatures.length)
      (signatureCount loose stage keys.length signatures.length) where
  keeps := by
    rintro ⟨⟩ hok
    rw [signatureCount_eq_ok_iff] at hok ⊢
    obtain ⟨henough, hexact⟩ := hok
    refine ⟨henough, fun hcreation hcount => ?_⟩
    rcases h.count with hloose | hsame
    · rw [hloose] at hcount
      cases hcount
    · exact hexact hcreation (hsame ▸ hcount)
  excuses := by
    rintro ⟨⟩ r hok herror
    obtain ⟨henough, -⟩ := signatureCount_eq_ok_iff.1 hok
    obtain ⟨hfew | ⟨hcreation, hexact, hne⟩, rfl⟩ := signatureCount_eq_error_iff.1 herror
    · omega
    · exact .signatureCount (hstage hcreation) hexact hkeys hsignatures (by omega)

/-! ## The stages -/

namespace Envelope

variable {e : Envelope}

theorem checkStructure_relaxes (h : loose.Loosens strict) {stage : Check.Stage}
    (hstage : stage = .creation → e.action = .ok .create) :
    Relaxes (e.OnlyStrict loose strict) (e.checkStructure strict stage)
      (e.checkStructure loose stage) := by
  unfold checkStructure
  refine (Relaxes.refl _).bind fun _ _ => (Relaxes.refl _).bind fun _ _ =>
    (Relaxes.refl _).bind fun _ _ => (Relaxes.refl _).bind fun _ _ =>
    (Relaxes.refl _).bind fun signatures hsignatures => (Relaxes.refl _).bind fun _ _ =>
    (Relaxes.refl _).bind fun keys hkeys => (Relaxes.refl _).bind fun _ _ =>
    (Relaxes.refl _).bind fun _ _ => Relaxes.bind ?signatureCount fun _ _ =>
    (Check.supportedSuites_relaxes h e keys).bind fun _ _ =>
    (Document.id_relaxes h e e.document).bind fun _ _ => .refl _
  case signatureCount =>
    rw [mapError_eq_ok_iff] at hsignatures hkeys
    exact Check.signatureCount_relaxes h hstage hkeys hsignatures

theorem outcome_checkBase_relaxes (h : loose.Loosens strict) {stage : Check.Stage}
    (hstage : stage = .creation → e.action = .ok .create) :
    Relaxes (e.OnlyStrict loose strict) (e.checkBase strict stage).outcome
      (e.checkBase loose stage).outcome := by
  simp only [checkBase, Logged.outcome_bind, Logged.outcome_ofExcept]
  exact (checkStructure_relaxes h hstage).bind fun _ _ => .refl _

theorem outcome_creation_relaxes (h : loose.Loosens strict) :
    Relaxes (e.OnlyStrict loose strict) (e.creation strict).outcome (e.creation loose).outcome := by
  simp only [creation, Logged.outcome_reported, Logged.outcome_bind, Logged.outcome_ofExcept]
  refine (Relaxes.refl _).bind fun _ haction => ?_
  have hcreates := creatingAction_eq_ok_iff.1 haction
  exact (outcome_checkBase_relaxes h fun _ => hcreates).bind fun _ _ => .refl _

theorem outcome_modification_relaxes (h : loose.Loosens strict) (precursor : Document) :
    Relaxes (e.OnlyStrict loose strict) (e.modification strict precursor).outcome
      (e.modification loose precursor).outcome := by
  have hsuffices (action : Action) :
      Check.anyOwnerSuffices strict action = Check.anyOwnerSuffices loose action := by
    rw [Check.anyOwnerSuffices, Check.anyOwnerSuffices, h.deletion]
  simp only [modification, Logged.outcome_reported, Logged.outcome_bind, Logged.outcome_ofExcept,
    Check.ownership, hsuffices]
  refine (Relaxes.refl _).bind fun _ _ => Relaxes.bind ?_ fun _ _ => .refl _
  apply outcome_checkBase_relaxes h
  intro hstage
  cases hstage

end Envelope

/-! ## Questions -/

/-- The looser judgement accepts what the strict one accepts, and where only the looser one accepts, the
strict one rejects for a reason that is excused. -/
structure Judgement.Relaxes (excused : Rejection → Prop) (strict loose : Judgement) : Prop where
  keeps : strict.verdict = .accepted → loose.verdict = .accepted
  excuses : loose.verdict = .accepted →
    strict.verdict = .accepted ∨ ∃ r, strict.verdict = .rejected r ∧ excused r

theorem Judgement.Relaxes.refl {excused : Rejection → Prop} (j : Judgement) :
    Relaxes excused j j :=
  ⟨id, .inl⟩

theorem Judgement.Relaxes.ofLogged {excused : Rejection → Prop} {x x' : Logged Unit}
    (h : DidAdmission.Relaxes excused x.outcome x'.outcome) :
    Relaxes excused (Judgement.ofLogged x) (Judgement.ofLogged x') where
  keeps := by
    simp only [History.verdict_ofLogged_eq_accepted_iff]
    exact h.keeps ()
  excuses := by
    simp only [History.verdict_ofLogged_eq_accepted_iff, verdict_ofLogged_eq_rejected_iff]
    intro hok
    cases hx : x.outcome with
    | ok _ => exact .inl rfl
    | error r => exact .inr ⟨r, rfl, h.excuses () r hok hx⟩

theorem Judgement.modification_relaxes (h : loose.Loosens strict) (e : Envelope)
    (precursor : Option Document) :
    Relaxes (e.OnlyStrict loose strict) (ofOption (precursor.map (e.modification strict)))
      (ofOption (precursor.map (e.modification loose))) := by
  cases precursor with
  | none =>
    simp only [Option.map_none]
    exact .refl _
  | some d => exact .ofLogged (Envelope.outcome_modification_relaxes h d)

/-- Where a change has no precursor, neither profile answers. -/
theorem Judgement.dispatch_relaxes (h : loose.Loosens strict) (e : Envelope)
    (precursor : Option Document) :
    Relaxes (e.OnlyStrict loose strict) (ofOption (e.dispatch strict precursor))
      (ofOption (e.dispatch loose precursor)) := by
  cases haction : e.action with
  | error rejection =>
    simp only [Envelope.dispatch, haction]
    exact .refl _
  | ok action =>
    cases action with
    | read =>
      simp only [Envelope.dispatch, haction]
      exact .refl _
    | create =>
      simp only [Envelope.dispatch, haction]
      exact .ofLogged (Envelope.outcome_creation_relaxes h)
    | update =>
      simp only [Envelope.dispatch, haction]
      exact modification_relaxes h e precursor
    | delete =>
      simp only [Envelope.dispatch, haction]
      exact modification_relaxes h e precursor

/-- An envelope that a profile accepts is accepted by a looser one. Where only the looser one accepts it,
the strict one counts too many signatures for a creation, or lacks the suite of a key, or does not admit
the network of the document's id. -/
theorem loosening_keeps_acceptance (h : loose.Loosens strict) (question : Question)
    (instruction document : String) (precursor : Option String) :
    ((question.answer strict instruction document precursor).verdict = .accepted →
      (question.answer loose instruction document precursor).verdict = .accepted) ∧
    ((question.answer loose instruction document precursor).verdict = .accepted →
      (question.answer strict instruction document precursor).verdict = .accepted ∨
      ∃ e r, Envelope.parse instruction document = .ok e ∧
        (question.answer strict instruction document precursor).verdict = .rejected r ∧
        e.OnlyStrict loose strict r) := by
  unfold Question.answer
  cases Envelope.parse instruction document with
  | error rejection => exact ⟨id, .inl⟩
  | ok e =>
    cases precursor.mapM Document.parse with
    | error reason => exact ⟨id, .inl⟩
    | ok current =>
      have hnamed {j j' : Judgement} (hj : Judgement.Relaxes (e.OnlyStrict loose strict) j j') :
          (j.verdict = .accepted → j'.verdict = .accepted) ∧
          (j'.verdict = .accepted → j.verdict = .accepted ∨
            ∃ e' r, (.ok e : Except Rejection Envelope) = .ok e' ∧
              j.verdict = .rejected r ∧ e'.OnlyStrict loose strict r) := by
        refine ⟨hj.keeps, fun hloose => (hj.excuses hloose).imp_right ?_⟩
        rintro ⟨r, hr, hexcused⟩
        exact ⟨e, r, rfl, hr, hexcused⟩
      cases question with
      | creation => exact hnamed (.ofLogged (Envelope.outcome_creation_relaxes h))
      | modification => exact hnamed (Judgement.modification_relaxes h e current)
      | dispatch => exact hnamed (Judgement.dispatch_relaxes h e current)

end

/-! ## A creation with a signature too many

The twins with a third signature, which targets no key of the document. -/

namespace Envelope

def excessOrder : String :=
  orderText "create" <|
    signatureText (twinId "") twinMaterial ++ "," ++ signatureText (twinId " ") twinMaterial ++ ","
    ++ signatureText (twinId "/") twinMaterial

def excess : Envelope where
  instruction.submission.text := excessOrder
  instruction.submission.object :=
    [("action", .text "create"),
     ("signatures", .array
       [signatureEntry (twinId "#k") twinMaterial, signatureEntry (twinId " #k") twinMaterial,
        signatureEntry (twinId "/#k") twinMaterial])]
  document := twinDocument

set_option maxRecDepth 20000 in
theorem parse_excess : parse excessOrder twinText = .ok excess := by
  have horder : Json.read excessOrder = .ok (.object excess.instruction.submission.object) := by
    unfold Json.read excessOrder orderText signatureText twinId twinMaterial
    simp only [String.toList_append]
    repeat rw [String.toList_ofList]
    rfl
  exact parse_eq_ok_iff.2 ⟨Instruction.parse_of_read horder, parse_twinText⟩

def excessParticulars : Particulars :=
  { twinParticulars with signatures := [twinSignature "", twinSignature " ", twinSignature "/"] }

end Envelope

/-- At least one signature a key, and any network. -/
def Profile.tolerant : Profile :=
  { Profile.standard with signatureCount := .atLeast, strictNetwork := false }

theorem Profile.tolerant_loosens_standard : Profile.tolerant.Loosens .standard where
  deletion := rfl
  suites := fun _ h => h
  count := .inl rfl
  network := .inl rfl

namespace Envelope

theorem excess_declares : excess.Declares .tolerant excessParticulars := by
  have hupdated : twinDocument.updated = .ok excessParticulars.updated :=
    (twins_declare "create").updated
  have hkeys : twinDocument.publicKeys = .ok excessParticulars.keys :=
    (twins_declare "create").keys
  exact ⟨by rfl, by rfl, hupdated, toOption_eq_some_iff.1 (by decide +kernel), hkeys,
    toOption_eq_some_iff.1 (by decide +kernel)⟩

theorem excess_admissible : excessParticulars.Admissible .tolerant .creation twinDocument.bytes where
  toWellFormed :=
    { twins_wellFormed .creation with
      targets := by decide +kernel
      enough := by decide
      exact := fun _ hexact => nomatch hexact }
  signed := by
    intro key hkey
    obtain ⟨s, hs, hvouches⟩ := (twins_admissible .creation).signed key hkey
    exact ⟨s, List.mem_append_left [twinSignature "/"] hs, hvouches⟩

theorem excess_accepted : (excess.creation .tolerant).outcome = .ok () :=
  outcome_creation_eq_ok_iff.2 ⟨by rfl, excessParticulars.signatures,
    outcome_checkBase_eq_ok_iff.2 ⟨_, excess_declares, excess_admissible, rfl⟩⟩

/-- The founding envelope is accepted by both profiles, and the one with a signature too many only where
that is tolerated. -/
theorem excess_tolerated :
    Profile.tolerant.Loosens .standard ∧
    ((Question.creation.answer .standard foundingOrder foundingText none).verdict = .accepted ∧
      (Question.creation.answer .tolerant foundingOrder foundingText none).verdict = .accepted) ∧
    (Question.creation.answer .tolerant excessOrder twinText none).verdict = .accepted ∧
    (Question.creation.answer .standard excessOrder twinText none).verdict =
      .rejected (.signatureCount 2 3) ∧
    excess.OnlyStrict .tolerant .standard (.signatureCount 2 3) := by
  have hloosens := Profile.tolerant_loosens_standard
  have hfounding :
      (Question.creation.answer .standard foundingOrder foundingText none).verdict = .accepted := by
    rw [Question.answer_creation parse_founding]
    exact History.verdict_ofLogged_eq_accepted_iff.2 founding_accepted
  have hexcess :
      (Question.creation.answer .tolerant excessOrder twinText none).verdict = .accepted := by
    rw [Question.answer_creation parse_excess]
    exact History.verdict_ofLogged_eq_accepted_iff.2 excess_accepted
  have hrejected : (Question.creation.answer .standard excessOrder twinText none).verdict =
      .rejected (.signatureCount 2 3) := by
    rw [Question.answer_creation parse_excess]
    decide +kernel
  have hkeeps := loosening_keeps_acceptance hloosens .creation foundingOrder foundingText none
  have hexcuses := loosening_keeps_acceptance hloosens .creation excessOrder twinText none
  refine ⟨hloosens, ⟨hfounding, hkeeps.1 hfounding⟩, hexcess, hrejected, ?_⟩
  rcases hexcuses.2 hexcess with haccepted | ⟨e, r, hparse, hr, honly⟩
  · rw [hrejected] at haccepted
    cases haccepted
  · obtain rfl : excess = e := Except.ok.inj (parse_excess.symm.trans hparse)
    obtain rfl : Rejection.signatureCount 2 3 = r := Verdict.rejected.inj (hrejected.symm.trans hr)
    exact honly

end Envelope

end DidAdmission
