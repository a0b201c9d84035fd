-- SUMMARY: A profile takes each field from the environment, else from the file, else from the standard.
import DidAdmission.Profile.Load
import DidAdmission.Proofs.Profile.Written

/-!
# Layers of settings

What a key has after a source has been laid over earlier settings is what the source sets it to last, and
what it had before if the source does not set it (`Setting.exists_layer?`). A file and the environment set the
keys of a profile at most once, so of either it matters only what a member is set to and not where it
stands; and what a field is read from is the setting of the environment, or else that of the file.
-/

namespace DidAdmission

/-! ## Settings -/

namespace Setting

variable {source source' : List (String × Setting)} {name key : String} {value : Setting}

theorem lookup_eq_some_iff_mem (hnodup : (source.map Prod.fst).Nodup) :
    source.lookup key = some value ↔ (key, value) ∈ source := by
  induction source with
  | nil => simp
  | cons entry source ih =>
    obtain ⟨name, found⟩ := entry
    rw [List.map_cons, List.nodup_cons] at hnodup
    rw [List.lookup_cons, List.mem_cons]
    by_cases hkey : key = name
    · subst hkey
      have hrest : (key, value) ∉ source := fun hmem => hnodup.1 (List.mem_map.2 ⟨_, hmem, rfl⟩)
      simp [hrest, eq_comm]
    · simp [beq_false_of_ne hkey, hkey, ih hnodup.2]

/-- Where no key comes twice, the order of the entries does not matter. -/
theorem lookup_perm (h : source.Perm source') (hnodup : (source'.map Prod.fst).Nodup) (key : String) :
    source.lookup key = source'.lookup key := by
  refine Option.ext fun value => ?_
  rw [lookup_eq_some_iff_mem hnodup, lookup_eq_some_iff_mem ((h.map _).nodup_iff.2 hnodup), h.mem_iff]

theorem lookup_map_set (entries : List (String × Setting)) (name key : String) (value : Setting) :
    (entries.map fun e => if e.1 = name then (name, value) else e).lookup key =
      if key = name then (entries.lookup key).map fun _ => value else entries.lookup key := by
  induction entries with
  | nil => simp
  | cons entry entries ih =>
    obtain ⟨k, found⟩ := entry
    rw [List.map_cons]
    by_cases hk : k = name
    · subst hk
      rw [if_pos rfl, List.lookup_cons, List.lookup_cons, ih]
      by_cases hkey : key = k
      · simp [hkey]
      · simp [beq_false_of_ne hkey, hkey]
    · rw [if_neg hk, List.lookup_cons, List.lookup_cons, ih]
      by_cases hkey : key = k
      · subst hkey
        simp [hk]
      · simp [beq_false_of_ne hkey]

theorem get?_set (s : Setting) (name key : String) (value : Setting) :
    (s.set name value).get? key = if key = name then some value else s.get? key := by
  unfold set
  by_cases hset : (s.get? name).isSome = true
  · rw [if_pos hset]
    refine (lookup_map_set _ _ _ _).trans ?_
    by_cases hkey : key = name
    · obtain ⟨found, hfound⟩ := Option.isSome_iff_exists.1 hset
      subst hkey
      rw [if_pos rfl, if_pos rfl, ← get?, hfound, Option.map_some]
    · rw [if_neg hkey, if_neg hkey, get?]
  · rw [if_neg hset]
    rw [Option.not_isSome_iff_eq_none] at hset
    refine List.lookup_append.trans ?_
    rw [← get?, List.lookup_cons]
    by_cases hkey : key = name
    · simp [hkey, hset]
    · simp [beq_false_of_ne hkey, hkey]

/-- A value that takes the place of what was there: anything but a table. -/
def Replaces : Setting → Prop
  | .table _ => False
  | _ => True

theorem overlay_eq_self (h : value.Replaces) (existing : Option Setting) :
    overlay value existing = value := by
  cases value with
  | table entries => exact h.elim
  | _ => rw [overlay]

/-- A source of plain keys can be laid over anything, and what it sets a key to last counts. -/
theorem exists_layer? (hplain : ∀ e ∈ source, stepsOf e.1 = [.entry e.1] ∧ e.2.Replaces) (s : Setting) :
    ∃ merged, s.layer? source = some merged ∧
      ∀ key, merged.get? key = (source.reverse.lookup key).or (s.get? key) := by
  induction source generalizing s with
  | nil => exact ⟨s, rfl, fun _ => rfl⟩
  | cons entry source ih =>
    obtain ⟨hsteps, hreplaces⟩ := hplain entry List.mem_cons_self
    obtain ⟨name, value⟩ := entry
    -- The others are laid over what the first entry has set.
    have hlayer : s.layer? ((name, value) :: source) = (s.set name value).layer? source := by
      rw [layer?, List.foldlM_cons, hsteps, place?, overlay_eq_self hreplaces]
      rfl
    obtain ⟨merged, hmerged, hget⟩ :=
      ih (fun e he => hplain e (List.mem_cons_of_mem _ he)) (s.set name value)
    refine ⟨merged, hlayer.trans hmerged, fun key => ?_⟩
    rw [hget, get?_set, List.reverse_cons, List.lookup_append, Option.or_assoc, List.lookup_cons]
    by_cases hkey : key = name
    · simp [hkey]
    · simp [beq_false_of_ne hkey, hkey]

theorem ofMembers_eq_map (members : List (String × Json)) :
    ofMembers members = members.map fun m => (m.1, ofJson m.2) := by
  induction members with
  | nil => rfl
  | cons member members ih =>
    rw [ofMembers, ih]
    rfl

theorem ofItems_eq_map (items : List Json) : ofItems items = items.map ofJson := by
  induction items with
  | nil => rfl
  | cons item items ih =>
    rw [ofItems, ih]
    rfl

theorem ofVariable_replaces (text : String) : (ofVariable text).Replaces := by
  unfold ofVariable
  split_ifs
  · trivial
  · trivial
  · split <;> trivial

end Setting

namespace Profile

open Setting (Replaces)

variable {d : Draft} {environment : List (String × String)} {content : String}

/-! ## Sources -/

section Sources

variable {value? : Member → Option Setting} {source : List (String × Setting)}

theorem stepsOf_name (m : Member) : Setting.stepsOf m.name = [.entry m.name] := by
  cases m <;> decide

theorem lookup_entries (value? : Member → Option Setting) (m : Member) :
    (Member.entries value?).lookup m.name = value? m := by
  refine Option.ext fun value => ?_
  rw [Setting.lookup_eq_some_iff_mem (Member.nodup_entries value?), Member.mem_entries]
  simp [Member.name_inj]

/-- A source of members, each at most once, sets those it has and leaves the others. -/
theorem exists_layer?_entries (hreplaces : ∀ m value, value? m = some value → value.Replaces)
    (h : source.Perm (Member.entries value?)) (s : Setting) :
    ∃ merged, s.layer? source = some merged ∧
      ∀ m : Member, merged.get? m.name = (value? m).or (s.get? m.name) := by
  have hplain : ∀ e ∈ source, Setting.stepsOf e.1 = [.entry e.1] ∧ e.2.Replaces := by
    rintro ⟨name, value⟩ he
    obtain ⟨m, rfl, hvalue⟩ := Member.mem_entries.1 (h.mem_iff.1 he)
    exact ⟨stepsOf_name m, hreplaces m value hvalue⟩
  obtain ⟨merged, hmerged, hget⟩ := Setting.exists_layer? hplain s
  refine ⟨merged, hmerged, fun m => ?_⟩
  rw [hget, Setting.lookup_perm (source.reverse_perm.trans h) (Member.nodup_entries value?),
    lookup_entries]

end Sources

/-! ## The file -/

/-- The setting that a file gives for a member. -/
def Draft.setting? (d : Draft) (m : Member) : Option Setting :=
  (d.json? m).map Setting.ofJson

theorem Draft.setting?_replaces (m : Member) (value : Setting) (h : d.setting? m = some value) :
    value.Replaces := by
  cases m
  all_goals
    obtain ⟨_, hjson, rfl⟩ := Option.map_eq_some_iff.1 h
    obtain ⟨_, -, rfl⟩ := Option.map_eq_some_iff.1 hjson
    trivial

/-- The settings of a file that is written for a draft are those of its members. -/
theorem settings?_of_isWrittenIn (h : d.IsWrittenIn content) :
    ∃ settings, (File.text content).settings? = some settings ∧
      settings.Perm (Member.entries d.setting?) := by
  obtain ⟨⟨object, hread⟩, hperm⟩ := h
  obtain ⟨-, -, -, -, -, rfl⟩ := Json.exists_members_of_read hread
  have hnodup : (Json.Object.keys (Json.membersWritten content)).Nodup :=
    (hperm.map _).nodup_iff.2 (Member.nodup_entries _)
  have hentries : Member.entries d.setting? = d.members.map fun m => (m.1, Setting.ofJson m.2) := by
    simp [Draft.members, Member.entries, Draft.setting?, List.map_filterMap, Function.comp_def]
  refine ⟨_, by rw [File.settings?, hread], ?_⟩
  rw [Setting.ofMembers_eq_map, hentries]
  exact ((Json.Object.perm_ofMembers hnodup).trans hperm).map _

/-! ## The environment -/

/-- The variable that sets a member. -/
def Member.variable : Member → String
  | .suites => "DID_ENVELOPE_SUPPORTED_SUITES"
  | .signatureCount => "DID_ENVELOPE_SIGNATURE_COUNT"
  | .deletion => "DID_ENVELOPE_DELETION_POLICY"
  | .strictNetwork => "DID_ENVELOPE_STRICT_NETWORK"

/-- What the environment sets; the suites cannot be set there. -/
structure Overrides where
  signatureCount : Option CountPolicy
  deletion : Option DeletionPolicy
  strictNetwork : Option Bool
deriving DecidableEq, Repr

namespace Overrides

variable {o : Overrides}

def empty : Overrides := ⟨none, none, none⟩

/-- The text of the variable for a member, if it is set. -/
def text? (o : Overrides) : Member → Option String
  | .suites => none
  | .signatureCount => o.signatureCount.map CountPolicy.name
  | .deletion => o.deletion.map DeletionPolicy.name
  | .strictNetwork => o.strictNetwork.map fun strict => if strict then "true" else "false"

/-- The variables that are set, each with its text. -/
def assignments (o : Overrides) : List (String × String) :=
  Member.all.filterMap fun m => (o.text? m).map (m.variable, ·)

/-- Of the variables that a profile is loaded from, just these are set. Any others may be. -/
def AreSetIn (o : Overrides) (environment : List (String × String)) : Prop :=
  (environment.filter fun v => (variableKey? v.1).isSome).Perm o.assignments

/-- The profile with each field as the environment sets it, else as the file does, else as it is in the
standard profile. -/
def laidOver (o : Overrides) (d : Draft) : Profile where
  suites := d.suites.getD Suite.all
  signatureCount := (o.signatureCount.or d.signatureCount).getD .exactForCreation
  deletion := (o.deletion.or d.deletion).getD .allKeys
  strictNetwork := (o.strictNetwork.or d.strictNetwork).getD true

/-- The setting that the environment gives for a member. -/
def setting? (o : Overrides) (m : Member) : Option Setting :=
  (o.text? m).map Setting.ofVariable

theorem setting?_replaces (m : Member) (value : Setting) (h : o.setting? m = some value) :
    value.Replaces := by
  obtain ⟨text, -, rfl⟩ := Option.map_eq_some_iff.1 h
  exact Setting.ofVariable_replaces text

end Overrides

theorem variableKey?_variable (m : Member) : variableKey? m.variable = some m.name := by
  cases m <;> decide

theorem variableSettings_filter (environment : List (String × String)) :
    variableSettings (environment.filter fun v => (variableKey? v.1).isSome) =
      variableSettings environment := by
  rw [variableSettings, variableSettings, List.filterMap_filter]
  refine List.filterMap_congr fun v _ => ?_
  cases hkey : variableKey? v.1 <;> simp [hkey]

theorem variableSettings_assignments (o : Overrides) :
    variableSettings o.assignments = Member.entries o.setting? := by
  rw [variableSettings, Overrides.assignments, List.filterMap_filterMap, Member.entries]
  refine List.filterMap_congr fun m _ => ?_
  rw [Overrides.setting?]
  cases o.text? m with
  | none => rfl
  | some text => simp [variableKey?_variable]

theorem variableSettings_perm {o : Overrides} (h : o.AreSetIn environment) :
    (variableSettings environment).Perm (Member.entries o.setting?) := by
  rw [← variableSettings_filter, ← variableSettings_assignments]
  exact h.filterMap _

/-! ## Fields -/

/-- A field is read from the setting of a variable, or else from that of the file. -/
theorem field?_or {α : Type} {settings : Setting} {name : String} {read? : Setting → Option α}
    {fromVariable fromFile : α → Setting} {a b : Option α} (standard : α)
    (hget : settings.get? name = (a.map fromVariable).or (b.map fromFile))
    (hvariable : ∀ value, read? (fromVariable value) = some value)
    (hfile : ∀ value, read? (fromFile value) = some value) :
    field? settings name read? standard = some ((a.or b).getD standard) := by
  rw [field?, hget]
  cases a with
  | some value => exact hvariable value
  | none =>
    cases b with
    | some value => exact hfile value
    | none => rfl

theorem suiteList?_ofJson (suites : List Suite) :
    suiteList? (.ofJson (.array (suites.map fun suite => .text suite.name))) = some suites := by
  rw [Setting.ofJson, suiteList?, Setting.ofItems_eq_map, List.map_map]
  induction suites with
  | nil => rfl
  | cons suite suites ih =>
    have hsuite : choice? Suite.named (.ofJson (.text suite.name)) = some suite := Suite.lookup_name suite
    simp only [List.map_cons, List.mapM_cons, Function.comp_apply, hsuite, ih]
    rfl

theorem choice?_count_ofVariable (policy : CountPolicy) :
    choice? CountPolicy.named (.ofVariable policy.name) = some policy := by
  cases policy <;> decide

theorem choice?_deletion_ofVariable (policy : DeletionPolicy) :
    choice? DeletionPolicy.named (.ofVariable policy.name) = some policy := by
  cases policy <;> decide

theorem switch?_ofVariable (strict : Bool) :
    switch? (.ofVariable (if strict then "true" else "false")) = some strict := by
  cases strict <;> decide

theorem ofSettings?_or {settings : Setting} {o : Overrides}
    (hget : ∀ m : Member, settings.get? m.name = (o.setting? m).or (d.setting? m)) :
    ofSettings? settings = some (o.laidOver d) := by
  have hsuites := hget .suites
  have hcount := hget .signatureCount
  have hdeletion := hget .deletion
  have hstrict := hget .strictNetwork
  simp only [Overrides.setting?, Overrides.text?, Draft.setting?, Draft.json?, Option.map_map]
    at hsuites hcount hdeletion hstrict
  have hcount' := field?_or standard.signatureCount hcount choice?_count_ofVariable CountPolicy.lookup_name
  have hdeletion' := field?_or standard.deletion hdeletion choice?_deletion_ofVariable
    DeletionPolicy.lookup_name
  have hstrict' := field?_or standard.strictNetwork hstrict switch?_ofVariable fun _ => rfl
  have hsuites' := field?_or (a := none) standard.suites hsuites suiteList?_ofJson suiteList?_ofJson
  rw [ofSettings?, hsuites', hcount', hdeletion', hstrict']
  rfl

/-! ## Loading -/

theorem load_of_settings {file : File} {settings : List (String × Setting)} {o : Overrides}
    (hsettings : file.settings? = some settings) (hfile : settings.Perm (Member.entries d.setting?))
    (henv : o.AreSetIn environment) :
    load file environment = .ok (o.laidOver d) := by
  obtain ⟨fromFile, hlaid, hfromFile⟩ :=
    exists_layer?_entries Draft.setting?_replaces hfile (.table [])
  obtain ⟨merged, hmerged, hfromBoth⟩ :=
    exists_layer?_entries Overrides.setting?_replaces (variableSettings_perm henv) fromFile
  have hget : ∀ m : Member, merged.get? m.name = (o.setting? m).or (d.setting? m) := by
    intro m
    have hempty : Setting.get? (.table []) m.name = none := rfl
    rw [hfromBoth, hfromFile, hempty, Option.or_none]
  simp only [load, hsettings, hlaid, Option.bind_some, hmerged, ofSettings?_or hget]

theorem settings?_of_isWrittenIn_empty (h : Draft.empty.IsWrittenIn content) :
    (File.text content).settings? = File.unnamed.settings? := by
  obtain ⟨settings, hsettings, hperm⟩ := settings?_of_isWrittenIn h
  have hnil : settings.Perm [] := hperm
  rw [hsettings, List.perm_nil.1 hnil]
  rfl

/-- A profile takes each field from the environment, else from the file, else from the standard profile,
and its suites from the file, else from the standard profile. Where no variable is set it is what the text of
the file is read as directly, and loading it without a file is loading it from an empty one. -/
theorem layers_combine {o : Overrides} (hfile : d.IsWrittenIn content) (henv : o.AreSetIn environment) :
    load (.text content) environment = .ok (o.laidOver d) ∧
    (o = .empty → ∃ p, load (.text content) environment = .ok p ∧ ofText content = .ok p) ∧
    load .unnamed environment = .ok (o.laidOver .empty) ∧
    ∀ blank, Draft.empty.IsWrittenIn blank →
      load .unnamed environment = load (.text blank) environment := by
  obtain ⟨settings, hsettings, hperm⟩ := settings?_of_isWrittenIn hfile
  have hload := load_of_settings hsettings hperm henv
  refine ⟨hload, ?direct, ?unnamed, ?blank⟩
  case direct =>
    rintro rfl
    exact ⟨_, hload, ofText_of_isWrittenIn hfile⟩
  case unnamed =>
    have hunnamed : File.unnamed.settings? = some [] := rfl
    have hnone : ([] : List (String × Setting)).Perm (Member.entries Draft.empty.setting?) := .rfl
    exact load_of_settings hunnamed hnone henv
  case blank =>
    intro blank hblank
    rw [load, load, settings?_of_isWrittenIn_empty hblank]

/-! ## A file under two variables

The members stand in an order of their own, a suite comes twice and a letter is escaped. -/

def mixedText : String :=
  "\x7b \"strict_network\":false,\"supported_suites\":[\"rsa\",\"\\u0065d25519\",\"rsa\"],"
    ++ "\"deletion_policy\":\"any-key\"\x7d"

def mixedDraft : Draft :=
  ⟨some [.rsa, .ed25519, .rsa], none, some .anyKey, some false⟩

def mixedEnvironment : List (String × String) :=
  [("PATH", "/bin"), ("DID_ENVELOPE_STRICT_NETWORK", "true"), ("DID_ENVELOPE_SIGNATURE_COUNT", "at-least")]

def mixedOverrides : Overrides :=
  ⟨some .atLeast, none, some true⟩

set_option maxRecDepth 20000 in
theorem isWrittenIn_mixed : mixedDraft.IsWrittenIn mixedText := by
  have hread : Json.read mixedText = .ok (.object
      [("deletion_policy", .text "any-key"), ("strict_network", .boolean false),
       ("supported_suites", .array [.text "rsa", .text "ed25519", .text "rsa"])]) := by
    unfold Json.read mixedText
    simp only [String.toList_append]
    repeat rw [String.toList_ofList]
    rfl
  have hwritten : Json.membersWritten mixedText =
      [("strict_network", .boolean false)] ++
        [("supported_suites", .array [.text "rsa", .text "ed25519", .text "rsa"]),
         ("deletion_policy", .text "any-key")] := by
    unfold Json.membersWritten mixedText
    simp only [String.toList_append]
    repeat rw [String.toList_ofList]
    rfl
  exact ⟨⟨_, hread⟩, hwritten ▸ List.perm_append_comm⟩

theorem isWrittenIn_blank : Draft.empty.IsWrittenIn "\x7b\x7d" := by
  have hread : Json.read "\x7b\x7d" = .ok (.object []) := rfl
  have hwritten : Json.membersWritten "\x7b\x7d" = [] := rfl
  exact ⟨⟨_, hread⟩, hwritten ▸ .nil⟩

/-- Of the members of the file only the one that a variable sets is changed. -/
theorem mixed_profile_loads :
    (mixedDraft.IsWrittenIn mixedText ∧ mixedOverrides.AreSetIn mixedEnvironment) ∧
    load (.text mixedText) mixedEnvironment = .ok ⟨[.rsa, .ed25519, .rsa], .atLeast, .anyKey, true⟩ ∧
    (∃ p, load (.text mixedText) [] = .ok p ∧ ofText mixedText = .ok p) ∧
    load .unnamed mixedEnvironment = load (.text "\x7b\x7d") mixedEnvironment := by
  have hset : mixedOverrides.AreSetIn mixedEnvironment := by
    unfold Overrides.AreSetIn
    decide
  have hunset : Overrides.empty.AreSetIn [] := .nil
  obtain ⟨hload, -, -, hblank⟩ := layers_combine isWrittenIn_mixed hset
  obtain ⟨-, hdirect, -, -⟩ := layers_combine isWrittenIn_mixed hunset
  exact ⟨⟨isWrittenIn_mixed, hset⟩, hload, hdirect rfl, hblank _ isWrittenIn_blank⟩

end Profile

end DidAdmission
