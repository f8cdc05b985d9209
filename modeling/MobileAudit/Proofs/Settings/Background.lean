import MobileAudit.Proofs.Settings.Fields

namespace MobileAudit.Settings

open Check

/-! Data over the defaults of the environment.  A value of the data takes the place of the default
behind it, unless both are mappings. -/

/-! Merging. -/

/-- The entries into which an update of a value is merged. -/
def held : Value → Value.Entries
  | .map entries => entries
  | _ => []

theorem mergeOver_eq_self {base : Value} (unmapped : ∀ entries, base ≠ .map entries) (v : Value) :
    mergeOver base v = v := by
  cases v with
  | map update =>
      rw [mergeOver]
      exact unmapped
  | loop label v =>
      rw [mergeOver]
      exact unmapped
  | _ => rfl

private theorem held_of_unmapped {base : Value} (unmapped : ∀ entries, base ≠ .map entries) :
    held base = [] := by
  rw [held]
  exact unmapped

theorem mergeOver_map {entries inner : Value.Entries} (v : Value) (isMap : v.bare = .map inner) :
    mergeOver (.map entries) v = .map (mergeEntries entries inner) := by
  induction v using Value.bare.induct with
  | case1 label v ih => exact ih isMap
  | case2 v noLoop =>
      cases v with
      | loop label v => exact absurd rfl (noLoop label v)
      | map update =>
          cases isMap
          rfl
      | _ => cases isMap

theorem bare_mergeOver {v : Value} (unmapped : ∀ inner, v.bare ≠ .map inner) (base : Value) :
    (mergeOver base v).bare = v.bare := by
  induction v using Value.bare.induct with
  | case1 label v ih =>
      by_cases isMap : ∃ entries, base = .map entries
      · obtain ⟨entries, rfl⟩ := isMap
        exact ih unmapped
      · rw [mergeOver_eq_self (not_exists.mp isMap)]
  | case2 v noLoop =>
      cases v with
      | loop label v => exact absurd rfl (noLoop label v)
      | map update => exact absurd rfl (unmapped update)
      | _ => rfl

theorem findText?_mergeEntries {update : Value.Entries} (distinct : update.Distinct)
    (base : Value.Entries) (name : String) :
    (mergeEntries base update).findText? name =
      (update.findText? name).elim (base.findText? name) fun v =>
        some (mergeOver ((base.findText? name).getD .null) v) := by
  induction update generalizing base with
  | nil => rfl
  | cons entry rest ih =>
      obtain ⟨k, v⟩ := entry
      rw [mergeEntries, ih distinct.tail]
      by_cases isName : k = .text name
      · subst isName
        rw [distinct.findText?_tail, Value.Entries.findText?_cons_self,
          Value.Entries.findText?_put_self]
        rfl
      · rw [Value.Entries.findText?_cons_other _ _ isName,
          Value.Entries.findText?_put_other _ _ isName]

theorem findText?_sectionIn_mergeEntries {defaults update inner : Value.Entries} {name : String}
    {v : Value} (distinct : update.Distinct) (distinctInner : inner.Distinct)
    (found : update.findText? name = some v) (isMap : v.bare = .map inner) (key : String) :
    (sectionIn (mergeEntries defaults update) name).findText? key =
      (mergeEntries (held ((defaults.findText? name).getD .null)) inner).findText? key := by
  have merged := findText?_mergeEntries distinct defaults name
  rw [found, Option.elim_some] at merged
  by_cases isBase : ∃ entries, (defaults.findText? name).getD .null = .map entries
  · obtain ⟨entries, isBase⟩ := isBase
    rw [isBase, mergeOver_map v isMap] at merged
    rw [sectionIn_eq merged rfl, isBase, held]
  · have unmapped := not_exists.mp isBase
    rw [mergeOver_eq_self unmapped] at merged
    rw [sectionIn_eq merged isMap, held_of_unmapped unmapped,
      findText?_mergeEntries distinctInner]
    cases inner.findText? key with
    | none => rfl
    | some w => exact congrArg some (mergeOver_eq_self (fun _ => Value.noConfusion) w).symm

theorem of_findText?_sectionIn {entries : Value.Entries} {name key : String} {w : Value}
    (found : (sectionIn entries name).findText? key = some w) :
    ∃ v inner, entries.findText? name = some v ∧ v.bare = .map inner ∧
      sectionIn entries name = inner := by
  cases isSection : entries.findText? name with
  | none =>
      rw [sectionIn, isSection] at found
      cases found
  | some v =>
      cases isMap : v.bare with
      | map inner => exact ⟨v, inner, rfl, isMap, sectionIn_eq isSection isMap⟩
      | _ =>
          rw [sectionIn, isSection, Option.map_some, isMap] at found
          cases found

/-! Values of settings. -/

theorem sectionName_mem {setting : Setting} {name : String}
    (above : setting.sectionName? = some name) : name ∈ sectionNames := by
  cases setting <;> cases above <;> decide

/-- Data whose keys are distinct, and so are those in its sections. -/
structure Separate (data : Value.Entries) : Prop where
  top : data.Distinct
  inside : ∀ name ∈ sectionNames, (sectionIn data name).Distinct

def behind? (defaults : Value.Entries) (setting : Setting) : Option Value :=
  match setting.sectionName? with
  | some name => (held ((defaults.findText? name).getD .null)).findText? setting.key
  | none => defaults.findText? setting.key

theorem behind?_cases (defaults : Value.Entries) (setting : Setting) :
    behind? defaults setting = none ∨ behind? defaults setting = valueIn defaults setting := by
  unfold behind? valueIn
  cases setting.sectionName? with
  | none => exact .inr rfl
  | some name =>
      simp only
      cases found : defaults.findText? name with
      | none => exact .inl rfl
      | some v =>
          cases v with
          | map entries =>
              rw [sectionIn_eq found rfl]
              exact .inr rfl
          | _ => exact .inl rfl

theorem valueIn_mergeEntries {update : Value.Entries} (separate : Separate update)
    (defaults : Value.Entries) {setting : Setting} {w : Value}
    (found : valueIn update setting = some w) :
    valueIn (mergeEntries defaults update) setting =
      some (mergeOver ((behind? defaults setting).getD .null) w) := by
  unfold valueIn at found ⊢
  unfold behind?
  cases above : setting.sectionName? with
  | none =>
      simp only [above] at found ⊢
      rw [findText?_mergeEntries separate.top, found]
      rfl
  | some name =>
      simp only [above] at found ⊢
      obtain ⟨v, inner, isSection, isMap, isInner⟩ := of_findText?_sectionIn found
      have distinct := separate.inside name (sectionName_mem above)
      rw [isInner] at found distinct
      rw [findText?_sectionIn_mergeEntries separate.top distinct isSection isMap,
        findText?_mergeEntries distinct, found]
      rfl

private theorem valueIn_mergeEntries_none {update : Value.Entries} (separate : Separate update)
    (defaults : Value.Entries) {setting : Setting} (missing : valueIn update setting = none) :
    valueIn (mergeEntries defaults update) setting = none ∨
      valueIn (mergeEntries defaults update) setting = valueIn defaults setting := by
  have behind := behind?_cases defaults setting
  unfold valueIn at missing ⊢
  unfold behind? valueIn at behind
  cases above : setting.sectionName? with
  | none =>
      simp only [above] at missing ⊢
      rw [findText?_mergeEntries separate.top, missing]
      exact .inr rfl
  | some name =>
      simp only [above] at missing behind ⊢
      have merged := findText?_mergeEntries separate.top defaults name
      cases isSection : update.findText? name with
      | none =>
          rw [isSection] at merged
          rw [sectionIn, merged]
          exact .inr rfl
      | some v =>
          by_cases isMap : ∃ inner, v.bare = .map inner
          · obtain ⟨inner, isMap⟩ := isMap
            have distinct := separate.inside name (sectionName_mem above)
            rw [sectionIn_eq isSection isMap] at missing distinct
            rw [findText?_sectionIn_mergeEntries separate.top distinct isSection isMap,
              findText?_mergeEntries distinct, missing]
            exact behind
          · have unmapped := not_exists.mp isMap
            rw [isSection, Option.elim_some] at merged
            have empty : sectionIn (mergeEntries defaults update) name = [] := by
              rw [sectionIn, merged, Option.map_some, bare_mergeOver unmapped]
              split
              · rename_i inner same
                exact absurd (Option.some.inj same) (unmapped inner)
              · rfl
            rw [empty]
            exact .inl rfl

theorem isSection_mergeEntries {update defaults : Value.Entries} (distinct : update.Distinct)
    {name : String} (isDefault : IsSection defaults name) :
    IsSection (mergeEntries defaults update) name ↔ IsSection update name := by
  unfold IsSection at isDefault ⊢
  rw [findText?_mergeEntries distinct]
  cases update.findText? name with
  | none =>
      constructor
      · rintro _ v ⟨⟩
      · exact fun _ => isDefault
  | some v =>
      simp only [Option.elim_some, Option.some.injEq, forall_eq']
      by_cases isMap : ∃ inner, v.bare = .map inner
      · refine ⟨fun _ => isMap, fun _ => ?_⟩
        obtain ⟨inner, isMap⟩ := isMap
        by_cases isBase : ∃ entries, (defaults.findText? name).getD .null = .map entries
        · obtain ⟨entries, isBase⟩ := isBase
          rw [isBase, mergeOver_map v isMap]
          exact ⟨_, rfl⟩
        · rw [mergeOver_eq_self (not_exists.mp isBase)]
          exact ⟨inner, isMap⟩
      · rw [bare_mergeOver (not_exists.mp isMap)]

/-! The entries that name settings. -/

/-- The value under the first key that names a setting, in any case. -/
def named? (data : Value.Entries) (name : String) : Option Value :=
  (List.find? (fun entry => namesSetting name entry.1) data).map (·.2)

theorem settingEntries_eq (data : Value.Entries) :
    settingEntries data =
      settingNames.filterMap fun name => (named? data name).map fun v => (.text name, v) := by
  unfold settingEntries named?
  simp only [Option.map_map]
  rfl

theorem distinct_settingEntries (data : Value.Entries) : (settingEntries data).Distinct := by
  rw [settingEntries_eq, Value.Entries.Distinct, List.pairwise_filterMap]
  refine List.Pairwise.imp ?_ (show settingNames.Nodup by decide)
  intro first second other entry isFirst entry' isSecond
  obtain ⟨_, _, rfl⟩ := Option.map_eq_some_iff.mp isFirst
  obtain ⟨_, _, rfl⟩ := Option.map_eq_some_iff.mp isSecond
  exact beq_eq_false_iff_ne.mpr other

theorem findText?_settingEntries (data : Value.Entries) {name : String}
    (isSetting : name ∈ settingNames) :
    (settingEntries data).findText? name = named? data name := by
  cases found : named? data name with
  | some v =>
      refine (distinct_settingEntries data).findText?_of_mem ?_
      rw [settingEntries_eq, List.mem_filterMap]
      exact ⟨name, isSetting, by rw [found]; rfl⟩
  | none =>
      cases entry : (settingEntries data).findText? name with
      | none => rfl
      | some v =>
          have member := Value.Entries.mem_of_findText? entry
          rw [settingEntries_eq, List.mem_filterMap] at member
          obtain ⟨other, _, isEntry⟩ := member
          obtain ⟨w, isNamed, same⟩ := Option.map_eq_some_iff.mp isEntry
          cases same
          rw [found] at isNamed
          cases isNamed

/-- No setting is named in another case before it is named as it is written. -/
def IsSpelled (data : Value.Entries) : Prop :=
  ∀ name ∈ settingNames, named? data name = data.findText? name

theorem settingName_of_section {name : String} (isSection : name ∈ sectionNames) :
    name ∈ settingNames := by
  revert name
  decide

theorem key_of_top {setting : Setting} (above : setting.sectionName? = none) :
    setting.key = "log_level" := by
  cases setting <;> cases above
  rfl

private theorem key_mem {setting : Setting} (above : setting.sectionName? = none) :
    setting.key ∈ settingNames := by
  rw [key_of_top above]
  decide

section Spelled

variable {data : Value.Entries} (spelled : IsSpelled data)

include spelled

theorem sectionIn_settingEntries {name : String} (isSection : name ∈ sectionNames) :
    sectionIn (settingEntries data) name = sectionIn data name := by
  have isSetting := settingName_of_section isSection
  rw [sectionIn, findText?_settingEntries data isSetting, spelled name isSetting, ← sectionIn]

theorem isSection_settingEntries {name : String} (isSection : name ∈ sectionNames) :
    IsSection (settingEntries data) name ↔ IsSection data name := by
  have isSetting := settingName_of_section isSection
  rw [IsSection, findText?_settingEntries data isSetting, spelled name isSetting, ← IsSection]

theorem valueIn_settingEntries (setting : Setting) :
    valueIn (settingEntries data) setting = valueIn data setting := by
  unfold valueIn
  cases above : setting.sectionName? with
  | none =>
      have isSetting := key_mem above
      simp only [findText?_settingEntries data isSetting, spelled _ isSetting]
  | some name => simp only [sectionIn_settingEntries spelled (sectionName_mem above)]

theorem Separate.settingEntries (separate : Separate data) : Separate (settingEntries data) where
  top := distinct_settingEntries data
  inside := by
    intro name isSection
    rw [sectionIn_settingEntries spelled isSection]
    exact separate.inside name isSection

end Spelled

/-! Checks of data. -/

/-- Data that does not replace the sources of settings. -/
def KeepsSources (data : Value.Entries) : Prop :=
  ∀ v, data.findText? sourcesKey = some v → v = .null

theorem check_eq_valid {environment : Environment} {data : Value.Entries} {settings : Settings}
    (keeps : KeepsSources data) :
    check environment (.map data) = .valid settings ↔
      textKeys data = true ∧ ∃ defaults, environmentDefaults environment = .ok defaults ∧
        fields (mergeEntries defaults (settingEntries data)) = .valid settings := by
  have noSources : (data.findText? sourcesKey).filter (fun v => !v.isNull) = none := by
    cases found : data.findText? sourcesKey with
    | none => rfl
    | some v =>
        rw [keeps v found]
        rfl
  unfold check
  simp only
  rw [noSources]
  cases textKeys data with
  | false => simp
  | true =>
      cases environmentDefaults environment with
      | error unreadable => cases unreadable <;> simp [Checked.flawed]
      | ok defaults => simp

theorem exists_check_eq_valid {environment : Environment} {data defaults : Value.Entries}
    (keeps : KeepsSources data) (isDefault : environmentDefaults environment = .ok defaults) :
    (∃ settings, check environment (.map data) = .valid settings) ↔
      textKeys data = true ∧
        ∃ settings, fields (mergeEntries defaults (settingEntries data)) = .valid settings := by
  constructor
  · rintro ⟨settings, valid⟩
    obtain ⟨texts, _, isSame, valid⟩ := (check_eq_valid keeps).mp valid
    cases isDefault.symm.trans isSame
    exact ⟨texts, settings, valid⟩
  · rintro ⟨texts, settings, valid⟩
    exact ⟨settings, (check_eq_valid keeps).mpr ⟨texts, defaults, isDefault, valid⟩⟩

/-- Data that replaces the sources of settings is not looked at any further. -/
theorem check_of_sources {environment : Environment} {data : Value.Entries} {v : Value}
    (found : data.findText? sourcesKey = some v) (stated : v ≠ .null) :
    check environment (.map data) =
      if textKeys data then fromSources v else .broken .keyNotText := by
  have sources : (data.findText? sourcesKey).filter (fun v => !v.isNull) = some v := by
    rw [found, Option.filter_some, Value.isNull_eq_false stated]
    rfl
  unfold check
  simp only
  rw [sources]
  cases textKeys data <;> rfl

/-- Sources give no settings but the default ones. -/
theorem fromSources_eq_valid {v : Value} {settings : Settings}
    (given : fromSources v = .valid settings) : settings = {} := by
  unfold fromSources at given
  split at given
  · cases given
  · split at given
    · cases given
      rfl
    · split at given <;> cases given
  · cases given

/-- Settings come out of a check as the default ones or as the fields of some entries, whatever the
environment and the data. -/
theorem default_or_fields_of_check {environment : Environment} {v : Value} {settings : Settings}
    (accepted : check environment v = .valid settings) :
    settings = {} ∨ ∃ entries, fields entries = .valid settings := by
  unfold check at accepted
  split at accepted
  · split at accepted
    · cases accepted
    · split at accepted
      · exact .inl (fromSources_eq_valid accepted)
      · split at accepted
        · cases accepted
        · cases accepted
        · exact .inr ⟨_, accepted⟩
  · cases accepted

theorem check_nil_eq_valid {environment : Environment} {settings : Settings} :
    check environment (.map []) = .valid settings ↔
      ∃ defaults, environmentDefaults environment = .ok defaults ∧
        fields defaults = .valid settings := by
  rw [check_eq_valid (by rintro v ⟨⟩)]
  constructor
  · rintro ⟨_, defaults, isDefault, valid⟩
    exact ⟨defaults, isDefault, valid⟩
  · rintro ⟨defaults, isDefault, valid⟩
    exact ⟨rfl, defaults, isDefault, valid⟩

/-- Over valid defaults, the sections that are mappings are those of the data. -/
theorem isSection_merged {defaults data : Value.Entries} {standard : Settings}
    (isStandard : fields defaults = .valid standard) (spelled : IsSpelled data) {name : String}
    (isName : name ∈ sectionNames) :
    IsSection (mergeEntries defaults (settingEntries data)) name ↔ IsSection data name := by
  have isDefault := (fields_eq_valid.mp isStandard).1 name isName
  rw [isSection_mergeEntries (distinct_settingEntries data) isDefault,
    isSection_settingEntries spelled isName]

theorem check_value {defaults data : Value.Entries} {settings : Settings}
    (spelled : IsSpelled data) (separate : Separate data)
    (valid : fields (mergeEntries defaults (settingEntries data)) = .valid settings)
    {setting : Setting} {w : Value} (found : valueIn data setting = some w) :
    setting.check (mergeOver ((behind? defaults setting).getD .null) w) =
      .valid (setting.of settings) := by
  have passed := (fields_eq_valid.mp valid).2 setting
  rw [← valueIn_settingEntries spelled] at found
  rw [valueIn_mergeEntries (separate.settingEntries spelled) defaults found] at passed
  exact passed

/-- Over valid defaults, data is valid exactly if its sections are mappings and its values are what
their settings take. -/
theorem exists_valid_iff {defaults data : Value.Entries} {standard : Settings}
    (isStandard : fields defaults = .valid standard) (spelled : IsSpelled data)
    (separate : Separate data) :
    (∃ settings, fields (mergeEntries defaults (settingEntries data)) = .valid settings) ↔
      (∀ name ∈ sectionNames, IsSection data name) ∧
        ∀ setting w, valueIn data setting = some w →
          ∃ a, setting.check (mergeOver ((behind? defaults setting).getD .null) w) = .valid a := by
  obtain ⟨defaultSections, defaultsPass⟩ := fields_eq_valid.mp isStandard
  rw [exists_fields_eq_valid]
  refine and_congr ?_ ?_
  · refine forall₂_congr fun name isSection => ?_
    rw [isSection_mergeEntries (distinct_settingEntries data) (defaultSections name isSection),
      isSection_settingEntries spelled isSection]
  · refine forall_congr' fun setting => ?_
    cases found : valueIn data setting with
    | none =>
        rw [← valueIn_settingEntries spelled] at found
        constructor
        · rintro _ w ⟨⟩
        · intro _
          obtain none | default :=
            valueIn_mergeEntries_none (separate.settingEntries spelled) defaults found
          · rw [none]
            exact ⟨_, rfl⟩
          · rw [default]
            exact ⟨_, defaultsPass setting⟩
    | some w =>
        rw [← valueIn_settingEntries spelled] at found
        rw [valueIn_mergeEntries (separate.settingEntries spelled) defaults found]
        refine ⟨?_, fun passed => passed w rfl⟩
        rintro passed _ ⟨⟩
        exact passed

end MobileAudit.Settings
