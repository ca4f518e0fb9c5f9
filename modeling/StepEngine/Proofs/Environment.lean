import StepEngine.Config.Document
import StepEngine.Proofs.Keyed
import StepEngine.Proofs.Parts

/-!
# Environment: what a document says under an environment

Under an environment its section is laid over the document, and the sections of environments are taken out of the result. What then is read
as settings depends on a few selections of entries only: those that have one of the names of settings, and those whose keys are no names at
all. Each of the steps in between selects from its result what it makes of the selections, so two things follow.

The base survives: a name has the value of the section laid over that of the base, and a section that says
nothing about the settings may as well be missing. This holds of every section that is a mapping, and not of one that is written without any
content: such a section is laid over the whole document as the value nothing, and all settings are the defaults.

The sections of other environments have no influence, whatever the section of the environment in force is.
-/

namespace StepEngine

namespace EngineConfig

open Yaml

variable {text environment other source : String} {base base' own : List (Yaml × Yaml)}

/-! ## Taking the sections out -/

/-- The key is that of the section of an environment that is taken out. -/
def isSectionKey (environment : String) (key : Yaml) : Bool := (knownEnvironments ++ [environment]).any fun name => same (.text name) key

/-- The sections are taken out at once. -/
theorem withoutSections_eq_filter (environment : String) (entries : List (Yaml × Yaml)) :
    withoutSections environment entries = entries.filter fun e => !isSectionKey environment e.1 := by
  have step : ∀ (names : List String) (entries : List (Yaml × Yaml)),
      names.foldl (fun entries name => remove (.text name) entries) entries =
        entries.filter fun e => !names.any fun name => same (.text name) e.1 := by
    intro names
    induction names with
    | nil => exact fun entries => (List.filter_eq_self.2 fun _ _ => rfl).symm
    | cons name names ih =>
      intro entries
      rw [List.foldl_cons, ih, remove, List.filter_filter]
      congr 1
      funext e
      rw [List.any_cons, Bool.not_or, Bool.and_comm]
  exact step _ entries

/-- A text is the key of a section exactly if it is the name of an environment that is known or in force. -/
theorem isSectionKey_text_iff {name : String} : isSectionKey environment (.text name) = true ↔ name ∈ knownEnvironments ∨ name = environment := by
  rw [isSectionKey, List.any_eq_true]
  simp only [same_text_iff, text.injEq, exists_eq_right', List.mem_append, List.mem_singleton]

/-- Any other text is not. -/
theorem isSectionKey_text_eq_false {name : String} (hknown : name ∉ knownEnvironments) (hne : name ≠ environment) :
    isSectionKey environment (.text name) = false := by
  rw [Bool.eq_false_iff, ne_eq, isSectionKey_text_iff, not_or]
  exact ⟨hknown, hne⟩

/-- Entries that are selected by their keys are selected before or after the sections are taken out. -/
theorem under_withoutSections (t : Option String) (entries : List (Yaml × Yaml)) :
    under t (withoutSections environment entries) = withoutSections environment (under t entries) := by
  rw [withoutSections_eq_filter, withoutSections_eq_filter, under, under, List.filter_filter, List.filter_filter]
  simp only [Bool.and_comm]

/-- A section that is taken out with the others may be taken out before. -/
theorem withoutSections_remove {name : String} (h : name ∈ knownEnvironments ∨ name = environment) (entries : List (Yaml × Yaml)) :
    withoutSections environment (remove (.text name) entries) = withoutSections environment entries := by
  rw [withoutSections_eq_filter, withoutSections_eq_filter, remove, List.filter_filter]
  refine List.filter_congr fun e _ => ?_
  cases hkey : same (.text name) e.1 with
  | false => simp
  | true => simp [same_text_iff.1 hkey, isSectionKey_text_iff.2 h]

/-- Entries whose keys are no texts are no sections. -/
theorem withoutSections_under_none (entries : List (Yaml × Yaml)) : withoutSections environment (under none entries) = under none entries := by
  rw [withoutSections_eq_filter, List.filter_eq_self]
  intro e he
  have hkey : e.1.asText? = none := beq_iff_eq.1 (List.mem_filter.1 he).2
  rw [Bool.not_eq_true', Bool.eq_false_iff, isSectionKey, ne_eq, List.any_eq_true]
  rintro ⟨name, -, hsame⟩
  rw [same_text_iff.1 hsame] at hkey
  cases hkey

/-- What is found at a name that is no section stays. -/
theorem find?_withoutSections {name : String} (hknown : name ∉ knownEnvironments) (hne : name ≠ environment) (entries : List (Yaml × Yaml)) :
    find? (.text name) (withoutSections environment entries) = find? (.text name) entries := by
  rw [withoutSections_eq_filter]
  refine find?_filter (p := fun key => !isSectionKey environment key) ?_
  rw [isSectionKey_text_eq_false hknown hne, Bool.not_false]

/-- The value at a name that is no section stays. -/
theorem withoutSections_single {name : String} (hknown : name ∉ knownEnvironments) (hne : name ≠ environment) (value : Option Yaml) :
    withoutSections environment (single name value) = single name value := by
  rw [withoutSections_eq_filter, List.filter_eq_self]
  intro e he
  obtain ⟨y, -, rfl⟩ := List.mem_map.1 he
  rw [isSectionKey_text_eq_false hknown hne, Bool.not_false]

/-! ## Reading the settings -/

/-- The names of settings. -/
def settingNames : List String := ["execution", "notifications", "processors"]

/-- The settings that are written by what is read at their names: a value may be missing there, and nothing is read if there are two. -/
def settings? (read : String → Option (Option Yaml)) : Option EngineConfig := do
  let execution ← read "execution"
  let notifications ← read "notifications"
  let processors ← read "processors"
  return ⟨← withDefault ExecutionConfig.default ExecutionConfig.ofYaml? execution,
    ← withDefault NotificationConfig.default NotificationConfig.ofYaml? notifications,
    ← withDefault Dict.empty processorsOfYaml? processors⟩

/-- What is read at other names does not matter. -/
theorem settings?_congr {read read' : String → Option (Option Yaml)} (h : ∀ name ∈ settingNames, read name = read' name) :
    settings? read = settings? read' := by
  rw [settings?, settings?, h "execution" (by decide), h "notifications" (by decide), h "processors" (by decide)]

/-- Settings that were read, if they were and are valid under the environment. -/
def inForce (environment source : String) : Option EngineConfig → Except ConfigError EngineConfig
  | none => .error (.invalidYaml source mismatched)
  | some settings =>
    match (settings.withEnvironment environment).validate with
    | .ok () => .ok (settings.withEnvironment environment)
    | .error e => .error e

/-- The settings of a document are those of the value that it is under the environment. -/
theorem ofDocument_eq (document : Yaml) (environment source : String) :
    ofDocument document environment source = inForce environment source (ofYaml? (underEnvironment document environment)) := by
  rw [ofDocument]
  cases ofYaml? (underEnvironment document environment) <;> rfl

/-- The settings of a text are those of its document. -/
theorem ofText_eq {document : Yaml} (h : parse? text = some document) :
    ofText text environment source = ofDocument document environment source := by
  rw [ofText, h]

/-- Settings in force have the environment that was asked for. -/
theorem environment_of_inForce {settings : Option EngineConfig} {config : EngineConfig}
    (h : inForce environment source settings = .ok config) : config.execution.environment = environment := by
  cases settings with
  | none => cases h
  | some settings =>
    rw [inForce] at h
    split at h
    · cases h
      rfl
    · cases h

/-- The settings of a mapping are read each from the entries under its name, if all keys are texts. -/
theorem ofYaml?_mapping (entries : List (Yaml × Yaml)) : ofYaml? (.mapping entries) =
    if (under none entries).isEmpty then settings? fun name => part? (under (some name) entries) else none := by
  simp only [ofYaml?, parts?_mapping, List.mapM_cons, List.mapM_nil, settings?]
  cases (under none entries).isEmpty with
  | false => rfl
  | true =>
    cases part? (under (some "execution") entries) <;> cases part? (under (some "notifications") entries) <;>
      cases part? (under (some "processors") entries) <;> rfl

/-! ## The section in force -/

/-- What the section of an environment says: nothing if there is none. A section that is no mapping does not count. -/
def sectionOf? (environment : String) (base : List (Yaml × Yaml)) : Option (List (Yaml × Yaml)) :=
  match find? (.text environment) base with
  | none => some []
  | some (.mapping own) => some own
  | some _ => none

/-- The section is laid over the document, and all sections are taken out then. -/
theorem underEnvironment_of_section (h : sectionOf? environment base = some own) :
    underEnvironment (.mapping base) environment = .mapping (withoutSections environment (overlayEntries base own)) := by
  unfold sectionOf? at h
  split at h <;> cases h
  · rename_i habsent
    simp only [underEnvironment, overlaid, field?, untag, habsent, overlayEntries]
  · rename_i hfound
    simp only [underEnvironment, overlaid, field?, untag, hfound, overlay]

/-- What stands where a section should is all that is left, if it is no mapping. -/
theorem underEnvironment_of_no_section (h : sectionOf? environment base = none) :
    ∃ y, find? (.text environment) base = some y ∧ underEnvironment (.mapping base) environment = y := by
  unfold sectionOf? at h
  split at h <;> cases h
  rename_i y hother hfound
  refine ⟨y, hfound, ?_⟩
  cases y with
  | mapping own => exact absurd rfl (hother own)
  | _ => simp only [underEnvironment, overlaid, field?, untag, hfound, overlay]

/-- The keys of a section differ if the document is that of a text. -/
theorem keysDiffer_of_section (hbase : WellKeyed (.mapping base)) (h : sectionOf? environment base = some own) : KeysDiffer own := by
  unfold sectionOf? at h
  split at h <;> cases h
  · exact List.Pairwise.nil
  · rename_i hfound
    obtain ⟨key, hmem⟩ := mem_of_find? hfound
    cases hbase with
    | mapping differ keys values =>
      cases values _ hmem with
      | mapping differ => exact differ

/-! ## The base survives -/

/-- What is read as the setting of a name when a section is laid over a document: it may be missing, and it is not written twice. -/
def settingUnder (environment : String) (base own : List (Yaml × Yaml)) (name : String) : Option (Option Yaml) :=
  part? (withoutSections environment (overlayEntries (under (some name) base) (under (some name) own)))

/-- What the settings of a text are under an environment, when the document of the text and its section for the environment are given. -/
structure BaseSurvives (text environment source : String) (base own : List (Yaml × Yaml)) : Prop where
  /-- A name has the value of the section laid over that of the base, or the one of the two that is there. -/
  value : ∀ name, name ∉ knownEnvironments → name ≠ environment →
    (underEnvironment (.mapping base) environment).field? name = overlay? (find? (.text name) base) (find? (.text name) own)
  /-- The settings are read from what the base and the section have at the three names, and from nothing else. All keys have to be texts. -/
  reads : ofText text environment source = inForce environment source
    (if textKeyed base && textKeyed own then settings? (settingUnder environment base own) else none)
  /-- What is read as a setting is the value of its name, where no tag hides the name. -/
  setting : ∀ name ∈ settingNames, name ≠ environment → PlainlyNamed name base → PlainlyNamed name own →
    settingUnder environment base own name = some (overlay? (find? (.text name) base) (find? (.text name) own))
  /-- The environment is always the one that was asked for. -/
  names_environment : ∀ config, ofText text environment source = .ok config → config.execution.environment = environment
  /-- A section that is empty or has other names only may as well be missing. -/
  omitted : (∀ e ∈ own, ∃ name, e.1.asText? = some name ∧ name ∉ settingNames) →
    ofText text environment source = ofDocument (.mapping (remove (.text environment) base)) environment source

/-- The names of settings are no environments. -/
theorem not_known_of_setting {name : String} (h : name ∈ settingNames) : name ∉ knownEnvironments := by
  revert name
  decide

/-- A name has the value of the section laid over that of the base. -/
theorem field?_underEnvironment {name : String} (hsection : sectionOf? environment base = some own) (hdiffer : KeysDiffer own)
    (hknown : name ∉ knownEnvironments) (hne : name ≠ environment) :
    (underEnvironment (.mapping base) environment).field? name = overlay? (find? (.text name) base) (find? (.text name) own) := by
  rw [underEnvironment_of_section hsection]
  change find? (.text name) (withoutSections environment (overlayEntries base own)) = _
  rw [find?_withoutSections hknown hne, find?_overlayEntries name base hdiffer]

/-- The settings are read from the selections of both sides. -/
theorem ofYaml?_underEnvironment (hsection : sectionOf? environment base = some own) : ofYaml? (underEnvironment (.mapping base) environment) =
    if textKeyed base && textKeyed own then settings? (settingUnder environment base own) else none := by
  have hunder : ∀ text, under text (withoutSections environment (overlayEntries base own)) =
      withoutSections environment (overlayEntries (under text base) (under text own)) := by
    intro text
    rw [under_withoutSections, under_overlayEntries]
  have hnone : (under none (withoutSections environment (overlayEntries base own))).isEmpty = (textKeyed base && textKeyed own) := by
    rw [under_withoutSections, withoutSections_under_none, under_overlayEntries, isEmpty_overlayEntries, textKeyed_eq, textKeyed_eq]
  rw [underEnvironment_of_section hsection, ofYaml?_mapping, hnone]
  simp only [hunder]
  rfl

/-- A setting that is written without tags is the value of its name. -/
theorem settingUnder_eq {name : String} (hbase : KeysDiffer base) (hown : KeysDiffer own) (hname : name ∈ settingNames)
    (hne : name ≠ environment) (hplainBase : PlainlyNamed name base) (hplainOwn : PlainlyNamed name own) :
    settingUnder environment base own name = some (overlay? (find? (.text name) base) (find? (.text name) own)) := by
  rw [settingUnder, under_eq_single hbase hplainBase, under_eq_single hown hplainOwn, overlayEntries_single,
    withoutSections_single (not_known_of_setting hname) hne, part?_single]

/-- A section that has no setting and no key that is no text leaves the settings alone. -/
theorem ofYaml?_eq_of_no_setting (hsection : sectionOf? environment base = some own)
    (hown : ∀ e ∈ own, ∃ name, e.1.asText? = some name ∧ name ∉ settingNames) :
    ofYaml? (underEnvironment (.mapping base) environment) = ofYaml? (.mapping (withoutSections environment base)) := by
  have hnone : under none own = [] := by
    refine under_eq_nil_iff.2 fun e he hkey => ?_
    obtain ⟨name, hname, -⟩ := hown e he
    cases hname.symm.trans hkey
  have hsetting : ∀ name ∈ settingNames, under (some name) own = [] := by
    refine fun name hmem => under_eq_nil_iff.2 fun e he hkey => ?_
    obtain ⟨other, hother, hnot⟩ := hown e he
    cases hother.symm.trans hkey
    exact hnot hmem
  rw [underEnvironment_of_section hsection, ofYaml?_mapping, ofYaml?_mapping, under_withoutSections, under_overlayEntries, hnone,
    overlayEntries, ← under_withoutSections]
  congr 1
  refine settings?_congr fun name hname => ?_
  rw [under_withoutSections, under_overlayEntries, hsetting name hname, overlayEntries, under_withoutSections]

/-- The base survives what the section of the environment does not override, unless the section is written without any content: then nothing
of the document counts, and the settings are the defaults. -/
theorem base_survives_unless_blank (h : parse? text = some (.mapping base)) :
    (∀ own, sectionOf? environment base = some own → BaseSurvives text environment source base own) ∧
      (find? (.text environment) base = some .null → ofText text environment source = .ok (default.withEnvironment environment)) := by
  have keyed : WellKeyed (.mapping base) := wellKeyed_of_parse? h
  have differ : KeysDiffer base := by
    cases keyed with
    | mapping differ => exact differ
  refine ⟨fun own hsection => ?_, fun hblank => ?_⟩
  · have hown := keysDiffer_of_section keyed hsection
    have hmissing : sectionOf? environment (remove (.text environment) base) = some [] := by rw [sectionOf?, find?_remove_self]
    refine ⟨fun name hknown hne => field?_underEnvironment hsection hown hknown hne, ?_,
      fun name hname hne => settingUnder_eq differ hown hname hne, fun config hconfig => ?_, fun hnot => ?_⟩
    · rw [ofText_eq h, ofDocument_eq, ofYaml?_underEnvironment hsection]
    · rw [ofText_eq h, ofDocument_eq] at hconfig
      exact environment_of_inForce hconfig
    · rw [ofText_eq h, ofDocument_eq, ofYaml?_eq_of_no_setting hsection hnot, ofDocument_eq, underEnvironment_of_section hmissing,
        overlayEntries, withoutSections_remove (Or.inr rfl)]
  · have hnone : sectionOf? environment base = none := by rw [sectionOf?, hblank]
    obtain ⟨y, hy, hunder⟩ := underEnvironment_of_no_section hnone
    cases hblank.symm.trans hy
    rw [ofText_eq h, ofDocument_eq, hunder]
    rfl

end EngineConfig

namespace Sample

open Yaml EngineConfig

/-- A text whose section for the tests overrides one of its settings. -/
def tuned : String :=
  "execution:\n  max_concurrent_steps: 16\nnotifications:\n  slow_handler_threshold_ms: 250\ntest:\n  execution:\n    max_concurrent_steps: 2\n"

/-- A text whose section for production has no content. -/
def blanked : String := "execution:\n  max_concurrent_steps: 2\nproduction:\n"

/-- A check of the entries of a text. -/
def checks (text : String) (check : List (Yaml × Yaml) → Bool) : Bool :=
  match parse? text with
  | some (.mapping base) => check base
  | _ => false

/-- A text that passes a check is a mapping that does. -/
theorem exists_of_checks (text : String) (check : List (Yaml × Yaml) → Bool) (h : checks text check = true) :
    ∃ base, parse? text = some (.mapping base) ∧ check base = true := by
  unfold checks at h
  split at h
  · exact ⟨_, ‹_›, h⟩
  · cases h

/-- The section of an environment is written without content. -/
def isBlank (environment : String) (base : List (Yaml × Yaml)) : Bool := (find? (.text environment) base).any (same .null)

/-- Without content there is the value nothing. -/
theorem find?_of_isBlank {environment : String} {base : List (Yaml × Yaml)} (h : isBlank environment base = true) :
    find? (.text environment) base = some .null := by
  unfold isBlank at h
  cases hfind : find? (.text environment) base with
  | none => simp [hfind] at h
  | some y => cases y <;> simp_all [same]

/-- Under the tests the base keeps what their section does not override, and a section without content takes all of it away. -/
theorem tuned_base_survives :
    (∃ base own, parse? tuned = some (.mapping base) ∧ sectionOf? "test" base = some own ∧ BaseSurvives tuned "test" "tuned" base own ∧
      (ofText tuned "test" "tuned").toOption.map (fun c => (c.execution, c.notifications)) = some (⟨"test", 2⟩, ⟨some 250⟩)) ∧
    ∃ base, parse? blanked = some (.mapping base) ∧ find? (.text "production") base = some .null ∧
      ofText blanked "production" "blanked" = .ok (default.withEnvironment "production") := by
  obtain ⟨base, hparse, hcheck⟩ := exists_of_checks tuned (fun base => (sectionOf? "test" base).isSome &&
    decide ((ofDocument (.mapping base) "test" "tuned").toOption.map (fun c => (c.execution, c.notifications)) =
      some (⟨"test", 2⟩, ⟨some 250⟩))) (by decide +kernel)
  rw [Bool.and_eq_true, decide_eq_true_iff] at hcheck
  obtain ⟨own, hown⟩ := Option.isSome_iff_exists.1 hcheck.1
  obtain ⟨base', hparse', hblank⟩ := exists_of_checks blanked (isBlank "production") (by decide +kernel)
  have hfind := find?_of_isBlank hblank
  refine ⟨⟨base, own, hparse, hown, (base_survives_unless_blank hparse).1 own hown, ?_⟩, base', hparse', hfind,
    (base_survives_unless_blank hparse').2 hfind⟩
  rw [ofText_eq hparse]
  exact hcheck.2

/-- A section that has no content and so overrides nothing is not as if it were missing: without it two steps may run at once, with it as many
as by default. -/
theorem blanked_drops_base : ∃ base, parse? blanked = some (.mapping base) ∧ find? (.text "production") base = some .null ∧
    (ofDocument (.mapping (remove (.text "production") base)) "production" "blanked").toOption.map (·.execution) = some ⟨"production", 2⟩ ∧
    (ofText blanked "production" "blanked").toOption.map (·.execution) = some ⟨"production", 64⟩ := by
  obtain ⟨base, hparse, hcheck⟩ := exists_of_checks blanked (fun base => isBlank "production" base &&
    decide ((ofDocument (.mapping (remove (.text "production") base)) "production" "blanked").toOption.map (·.execution) =
      some ⟨"production", 2⟩)) (by decide +kernel)
  rw [Bool.and_eq_true, decide_eq_true_iff] at hcheck
  exact ⟨base, hparse, find?_of_isBlank hcheck.1, hcheck.2, by decide +kernel⟩

end Sample

namespace EngineConfig

open Yaml

variable {environment other source : String} {base base' : List (Yaml × Yaml)}

/-! ## Sections of other environments -/

/-- Under an environment a document is the same value whatever the section of another known environment is. -/
theorem underEnvironment_congr (hother : other ∈ knownEnvironments) (hne : other ≠ environment)
    (h : remove (.text other) base = remove (.text other) base') :
    underEnvironment (.mapping base) environment = underEnvironment (.mapping base') environment := by
  have hfind : find? (.text environment) base = find? (.text environment) base' := by
    rw [← find?_remove_other hne.symm, h, find?_remove_other hne.symm]
  have hsection : sectionOf? environment base' = sectionOf? environment base := by rw [sectionOf?, sectionOf?, hfind]
  cases hown : sectionOf? environment base with
  | some own =>
    rw [underEnvironment_of_section hown, underEnvironment_of_section (hsection.trans hown), ← withoutSections_remove (Or.inl hother),
      remove_overlayEntries, h, ← remove_overlayEntries, withoutSections_remove (Or.inl hother)]
  | none =>
    obtain ⟨y, hy, hunder⟩ := underEnvironment_of_no_section hown
    obtain ⟨y', hy', hunder'⟩ := underEnvironment_of_no_section (hsection.trans hown)
    rw [hfind, hy'] at hy
    cases hy
    rw [hunder, hunder']

/-- The sections of other environments have no influence: documents that are the same but for the section of one of them give the same
settings, or fail with the same error, and so do the texts that they are written in. -/
theorem other_sections_go_unnoticed (hother : other ∈ knownEnvironments) (hne : other ≠ environment)
    (h : remove (.text other) base = remove (.text other) base') :
    ofDocument (.mapping base) environment source = ofDocument (.mapping base') environment source ∧
      ∀ text text', parse? text = some (.mapping base) → parse? text' = some (.mapping base') →
        ofText text environment source = ofText text' environment source := by
  have hdocument : ofDocument (.mapping base) environment source = ofDocument (.mapping base') environment source := by
    rw [ofDocument_eq, ofDocument_eq, underEnvironment_congr hother hne h]
  refine ⟨hdocument, fun text text' htext htext' => ?_⟩
  rw [ofText_eq htext, ofText_eq htext', hdocument]

end EngineConfig

namespace Sample

open Yaml EngineConfig

/-- An execution setting for so many steps. -/
def steps (count : Int) : Yaml × Yaml := (.text "execution", .mapping [(.text "max_concurrent_steps", .int count)])

/-- A document whose section for the tests has a section for production in it, with or without one of its own. -/
def rehearsal (production : List (Yaml × Yaml)) : List (Yaml × Yaml) :=
  steps 16 :: production ++ [(.text "test", .mapping [(.text "production", .mapping [steps 0]), steps 2])]

/-- The tests do not notice that a section for production, which would be refused under production, is taken away. -/
theorem rehearsal_goes_unnoticed :
    "production" ∈ knownEnvironments ∧ "production" ≠ "test" ∧
      remove (.text "production") (rehearsal [(.text "production", .mapping [steps 0])]) = remove (.text "production") (rehearsal []) ∧
      ofDocument (.mapping (rehearsal [(.text "production", .mapping [steps 0])])) "test" "rehearsal" =
        ofDocument (.mapping (rehearsal [])) "test" "rehearsal" ∧
      (ofDocument (.mapping (rehearsal [])) "test" "rehearsal").toOption.map (·.execution) = some ⟨"test", 2⟩ := by
  have known : "production" ∈ knownEnvironments := by decide
  have hne : "production" ≠ "test" := by decide
  exact ⟨known, hne, rfl, (other_sections_go_unnoticed known hne rfl).1, by decide +kernel⟩

end Sample

end StepEngine
