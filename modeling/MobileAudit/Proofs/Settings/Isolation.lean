import MobileAudit.Proofs.Settings.Outcomes
import MobileAudit.Proofs.Settings.Precedence
import MobileAudit.Proofs.Settings.Variables

namespace MobileAudit.Settings

open Check Disk

/-! Resolutions that leave the environment aside.  What they still have of it are the defaults that
its variables give whenever settings are checked. -/

/-! Data over two environments. -/

/-- Environments between which resolutions that leave the environment aside do not tell. -/
def Indistinct (first second : Environment) : Prop :=
  ∀ (fs : FileSystem) (userDirectories : List Path) (query : Query),
    query.useEnvironment = false →
      resolve ⟨fs, first, userDirectories⟩ query =
        resolve ⟨fs, second, userDirectories⟩ query

/-- Environments that give the same settings by themselves, and have the same effect on every value
that stands above their defaults. -/
structure SameBackground (first second : Environment) : Prop where
  standard : check first (.map []) = check second (.map [])
  values : ∀ before after, environmentDefaults first = .ok before →
    environmentDefaults second = .ok after → (∃ standard, fields before = .valid standard) →
    ∀ (setting : Setting) (v : Value),
      setting.check (mergeOver ((behind? before setting).getD .null) v) =
        setting.check (mergeOver ((behind? after setting).getD .null) v)

private theorem sameBackground_of_defaults {first second : Environment}
    (same : environmentDefaults first = environmentDefaults second) :
    SameBackground first second where
  standard := by
    unfold check
    rw [same]
  values := by
    intro before after isBefore isAfter _ setting v
    cases isBefore.symm.trans (same.trans isAfter)
    rfl

section Merged

variable {environment : Environment} {defaults update : Value.Entries} {standard : Settings}
  {setting : Setting}

/-- Whether a setting stands in a section that data leaves out or sets to a mapping. -/
def InSection (update : Value.Entries) (setting : Setting) : Prop :=
  ∀ above, setting.sectionName? = some above → IsSection update above

theorem valueIn_mergeEntries_missing (separate : Separate update)
    (isDefault : environmentDefaults environment = .ok defaults)
    (inSection : InSection update setting) (missing : valueIn update setting = none) :
    valueIn (mergeEntries defaults update) setting = valueIn defaults setting := by
  rw [← behind?_eq isDefault]
  unfold valueIn at missing ⊢
  unfold behind?
  cases above : setting.sectionName? with
  | none =>
      simp only [above] at missing ⊢
      rw [findText?_mergeEntries separate.top, missing]
      rfl
  | some name =>
      have isSection := inSection name above
      simp only [above] at missing ⊢
      cases found : update.findText? name with
      | none =>
          have same := behind?_eq isDefault setting
          simp only [behind?, valueIn, above] at same
          have merged := findText?_mergeEntries separate.top defaults name
          rw [found] at merged
          rw [sectionIn, merged, Option.elim_none, ← sectionIn, same]
      | some v =>
          obtain ⟨inner, isMap⟩ := isSection v found
          have distinct := separate.inside name (sectionName_mem above)
          rw [sectionIn_eq found isMap] at missing distinct
          rw [findText?_sectionIn_mergeEntries separate.top distinct found isMap,
            findText?_mergeEntries distinct, missing]
          rfl

private theorem valueIn_mergeEntries_no_section (distinct : update.Distinct)
    (isStandard : fields defaults = .valid standard) (noSection : ¬ InSection update setting) :
    valueIn (mergeEntries defaults update) setting = none := by
  unfold InSection at noSection
  simp only [Classical.not_forall] at noSection
  obtain ⟨name, above, noSection⟩ := noSection
  have isDefault := (fields_eq_valid.mp isStandard).1 name (sectionName_mem above)
  rw [← isSection_mergeEntries distinct isDefault] at noSection
  unfold valueIn
  simp only [above]
  rw [sectionIn_eq_nil noSection]
  rfl

end Merged

section SameBackground

variable {first second : Environment} (same : SameBackground first second) {standard : Settings}
  (isStandard : check first (.map []) = .valid standard)

include same isStandard

private theorem check_congr {data : Value.Entries} (spelled : IsSpelled data)
    (separate : Separate data) :
    check first (.map data) = check second (.map data) := by
  obtain ⟨before, isBefore, validBefore⟩ := check_nil_eq_valid.mp isStandard
  have isSame := same.standard.symm.trans isStandard
  obtain ⟨after, isAfter, validAfter⟩ := check_nil_eq_valid.mp isSame
  have passedBefore := (fields_eq_valid.mp validBefore).2
  have passedAfter := (fields_eq_valid.mp validAfter).2
  have distinct := distinct_settingEntries data
  have separated := separate.settingEntries spelled
  have merged : fields (mergeEntries before (settingEntries data)) =
      fields (mergeEntries after (settingEntries data)) := by
    refine fields_congr (fun name isName => ?_) (fun setting => ?_)
    · rw [isSection_merged validBefore spelled isName, isSection_merged validAfter spelled isName]
    · unfold outcomeIn
      -- A value meets the default behind it.  Without one the default itself is checked, and both
      -- defaults pass; in a section that is no mapping neither is left.
      cases found : valueIn (settingEntries data) setting with
      | some v =>
          rw [valueIn_mergeEntries separated before found,
            valueIn_mergeEntries separated after found]
          exact same.values before after isBefore isAfter ⟨standard, validBefore⟩ setting v
      | none =>
          by_cases inSection : InSection (settingEntries data) setting
          · rw [valueIn_mergeEntries_missing separated isBefore inSection found,
              valueIn_mergeEntries_missing separated isAfter inSection found, passedBefore,
              passedAfter]
          · rw [valueIn_mergeEntries_no_section distinct validBefore inSection,
              valueIn_mergeEntries_no_section distinct validAfter inSection]
  unfold check
  simp only [isBefore, isAfter, merged]

end SameBackground

theorem bind_congr_ok {ε α β : Type} {first : Except ε α} {next next' : α → Except ε β}
    (same : ∀ a, first = .ok a → next a = next' a) : first >>= next = first >>= next' := by
  cases first with
  | error e => rfl
  | ok a => exact same a rfl

@[simp] theorem mapError_eq_ok {ε ε' α : Type} {f : ε → ε'} {outcome : Except ε α} {a : α} :
    outcome.mapError f = .ok a ↔ outcome = .ok a := by
  cases outcome <;> simp [Except.mapError]

/-! Drafts. -/

theorem Separate.merged {base layer : Value.Entries} (separateBase : Separate base)
    (separate : Separate layer) : Separate (Settings.overlay base layer) where
  top := distinct_overlay separateBase.top layer
  inside := by
    intro name isName
    have merged := findText?_overlay separate.top base name
    cases isGiven : given? (layer.findText? name) with
    | none =>
        rw [isGiven, Option.elim_none] at merged
        rw [sectionIn, merged, ← sectionIn]
        exact separateBase.inside name isName
    | some v =>
        rw [isGiven, Option.elim_some] at merged
        obtain ⟨found, _⟩ := given?_eq_some.mp isGiven
        cases isMap : v.bare with
        | map inner =>
            have distinct := separate.inside name isName
            rw [sectionIn_eq found isMap] at distinct
            unfold overlaid at merged
            simp only [isMap] at merged
            split at merged
            · rename_i old isOld
              have distinctBase := separateBase.inside name isName
              rw [sectionIn, isOld] at distinctBase
              rw [sectionIn_eq merged rfl]
              exact distinct_overlay distinctBase inner
            · rwa [sectionIn_eq merged isMap]
        | _ =>
            rw [sectionIn_eq_nil]
            · exact Value.Entries.distinct_nil
            · intro isSection
              obtain ⟨inner, isInner⟩ := bare_overlaid.mp (isSection _ merged)
              cases isMap.symm.trans isInner

/-- The draft that is checked in the end: the standard settings under a file and arguments. -/
def gathered (standard : Settings) (layer arguments : Value.Entries) : Draft :=
  ((Draft.overlaid ⟨standard.entries, []⟩ .configFile layer).overlaid .environment []).overlaid
    .commandLine arguments

theorem environmentLayer_aside {query : Query} (aside : query.useEnvironment = false)
    (origin : Origin) : environmentLayer origin query = [] := by
  rw [environmentLayer, aside]
  rfl

/-- A resolution that leaves the environment aside comes to know it by its checks only. -/
theorem resolve_congr {fs : FileSystem} {first second : Environment} {userDirectories : List Path}
    {query : Query} (aside : query.useEnvironment = false)
    (standards : check first (.map []) = check second (.map []))
    (gathers : ∀ standard file layer arguments, check first (.map []) = .valid standard →
      fileLayer ⟨fs, first, userDirectories⟩ file = .ok layer →
      argumentLayer query.arguments = .ok arguments →
      check first (.map (gathered standard layer arguments).entries) =
        check second (.map (gathered standard layer arguments).entries)) :
    resolve ⟨fs, first, userDirectories⟩ query =
      resolve ⟨fs, second, userDirectories⟩ query := by
  have chosen : chooseFile ⟨fs, first, userDirectories⟩ query =
      chooseFile ⟨fs, second, userDirectories⟩ query := by
    unfold chooseFile
    simp only [aside, Bool.false_eq_true, if_false]
  have read : fileLayer ⟨fs, first, userDirectories⟩ =
      fileLayer ⟨fs, second, userDirectories⟩ := by
    funext file
    cases file <;> rfl
  have isChecked : checked first [] = checked second [] := by
    rw [checked, standards, checked]
  unfold resolve
  simp only [← isChecked, ← chosen, ← read, environmentLayer_aside aside]
  refine bind_congr_ok fun standard isStandard => ?_
  refine bind_congr_ok fun file _ => ?_
  refine bind_congr_ok fun layer isLayer => ?_
  refine bind_congr_ok fun underFile isUnderFile => ?_
  refine bind_congr_ok fun underVariables isUnderVariables => ?_
  refine bind_congr_ok fun arguments given => ?_
  refine bind_congr_ok fun draft isDraft => ?_
  -- All that was chosen, read and given is the same, and so is the draft; its check is left.
  obtain ⟨_, rfl⟩ := withLayer_eq_ok.mp isUnderFile
  obtain ⟨_, rfl⟩ := withLayer_eq_ok.mp isUnderVariables
  obtain ⟨_, rfl⟩ := withLayer_eq_ok.mp isDraft
  have same := gathers standard file layer arguments (checked_eq_ok.mp isStandard) isLayer
    (mapError_eq_ok.mp given)
  have last : checked first (gathered standard layer arguments).entries =
      checked second (gathered standard layer arguments).entries := by
    rw [checked, same, checked]
  exact congrArg (· >>= _) last

/-! Resolutions that tell environments apart. -/

theorem resolve_eq_gathered {origin : Origin} {query : Query} {standard : Settings}
    {file : Option Path} {layer arguments : Value.Entries} (aside : query.useEnvironment = false)
    (isStandard : check origin.environment (.map []) = .valid standard)
    (chosen : chooseFile origin query = .ok file) (read : fileLayer origin file = .ok layer)
    (named : nameless standard.entries layer = false)
    (given : argumentLayer query.arguments = .ok arguments)
    (namedArguments : nameless (overlay standard.entries layer) arguments = false) :
    resolve origin query =
      (checked origin.environment (gathered standard layer arguments).entries).map fun settings =>
        ⟨settings, file, (gathered standard layer arguments).sources⟩ := by
  unfold resolve
  simp only [checked_eq_ok.mpr isStandard, chosen, read, given, environmentLayer_aside aside,
    withLayer_eq, named, Bind.bind, Except.bind, Except.mapError, nameless, Bool.false_eq_true,
    if_false]
  simp only [Draft.overlaid, overlay, namedArguments, Bool.false_eq_true, if_false]
  rfl

theorem check_of_checked {first second : Environment} {data : Value.Entries}
    (same : checked first data = checked second data) :
    check first (.map data) = check second (.map data) := by
  unfold checked at same
  cases isFirst : check first (.map data) <;> cases isSecond : check second (.map data) <;>
    simp [isFirst, isSecond] at same ⊢ <;> exact same

theorem map_ok_injective {ε α β : Type} {f : α → β} (injective : Function.Injective f) :
    Function.Injective (Except.map f : Except ε α → Except ε β) := by
  intro first second same
  cases first <;> cases second <;> simp only [Except.map, Except.ok.injEq, Except.error.injEq,
    reduceCtorEq] at same
  · rw [same]
  · rw [injective same]

def Query.ofNothing : Query := { useEnvironment := false, useFile := false }

private theorem check_entries {environment : Environment} {standard : Settings}
    (isStandard : check environment (.map []) = .valid standard) :
    check environment (.map standard.entries) = .valid standard := by
  obtain ⟨defaults, isDefault, valid⟩ := check_nil_eq_valid.mp isStandard
  have decided := decided_entries standard
  refine (decided.check_eq_valid isDefault valid rfl fun setting => ?_).mpr fun setting => ?_
  · exact unmapped_write setting _
  · exact check_write_of_valid valid setting

theorem resolve_nothing (origin : Origin) :
    resolve origin .ofNothing = (checked origin.environment []).map fun settings =>
      ⟨settings, none, []⟩ := by
  cases isStandard : checked origin.environment [] with
  | error _ =>
      unfold resolve
      rw [isStandard]
      rfl
  | ok standard =>
      have isStandard := checked_eq_ok.mp isStandard
      rw [resolve_eq_gathered rfl isStandard rfl rfl rfl rfl rfl]
      have again : checked origin.environment (gathered standard [] []).entries = .ok standard :=
        checked_eq_ok.mpr (check_entries isStandard)
      rw [again]
      rfl

/-- The check of data in which all settings but one are absent or standard is the check of that
one. -/
theorem check_of_single {environment : Environment} {defaults data : Value.Entries}
    {standard : Settings} (isDefault : environmentDefaults environment = .ok defaults)
    (isStandard : fields defaults = .valid standard) (texts : textKeys data = true)
    (noSources : data.findText? sourcesKey = none) (spelled : IsSpelled data)
    (separate : Separate data) (isSection : ∀ name ∈ sectionNames, IsSection data name)
    {setting : Setting} {v : Value} (value : valueIn data setting = some v)
    (others : ∀ other, other ≠ setting →
      valueIn data other = none ∨ valueIn data other = some (other.write (other.of standard))) :
    check environment (.map data) =
      (setting.placed (setting.check (mergeOver ((behind? defaults setting).getD .null) v))).map
        (setting.put standard) := by
  have passed := (fields_eq_valid.mp isStandard).2
  have separated := separate.settingEntries spelled
  simp only [← valueIn_settingEntries spelled] at value others
  have isCheck : check environment (.map data) =
      fields (mergeEntries defaults (settingEntries data)) := by
    unfold check
    simp only [texts, noSources, isDefault]
    rfl
  have decides : outcomeIn (mergeEntries defaults (settingEntries data)) setting =
      setting.check (mergeOver ((behind? defaults setting).getD .null) v) := by
    rw [outcomeIn, valueIn_mergeEntries separated defaults value]
    rfl
  rw [isCheck, fields_eq_assemble, assemble_eq setting, decides]
  · intro other differs
    rw [outcomeIn]
    obtain missing | present := others other differs
    · have inSection : InSection (settingEntries data) other := fun name above =>
        (isSection_settingEntries spelled (sectionName_mem above)).mpr
          (isSection name (sectionName_mem above))
      rw [valueIn_mergeEntries_missing separated isDefault inSection missing]
      exact passed other
    · rw [valueIn_mergeEntries separated defaults present, mergeOver_unmapped (unmapped_write _ _)]
      exact check_write_of_valid isStandard other
  · intro name isName
    rw [isSection_merged isStandard spelled isName]
    exact isSection name isName

/-- A file that leaves nothing of a section. -/
def cleared (above : String) : Value.Entries := [(.text above, .bool false)]

def sole (above key : String) (v : Value) : Value.Entries :=
  [(.text above, .map [(.text key, v)])]

theorem distinct_singleton (entry : Value × Value) : Value.Entries.Distinct [entry] :=
  List.pairwise_singleton _ _

theorem findText?_singleton (name : String) (v : Value) (other : String) :
    Value.Entries.findText? [(.text name, v)] other = if name = other then some v else none := by
  by_cases same : name = other
  · subst same
    rw [Value.Entries.findText?_cons_self, if_pos rfl]
  · rw [Value.Entries.findText?_cons_other _ _ (by simpa using same), if_neg same]
    rfl

section Sole

variable (standard : Settings) (above key : String) (v : Value)

theorem findText?_cleared (name : String) :
    (overlay standard.entries (cleared above)).findText? name =
      if above = name then some (.bool false) else standard.entries.findText? name := by
  rw [cleared, findText?_overlay (distinct_singleton _), findText?_singleton]
  split <;> rfl

theorem findText?_sole (name : String) :
    (gathered standard (cleared above) (sole above key v)).entries.findText? name =
      if above = name then some (.map [(.text key, v)]) else standard.entries.findText? name := by
  have merged : (gathered standard (cleared above) (sole above key v)).entries =
      overlay (overlay standard.entries (cleared above)) (sole above key v) := rfl
  rw [merged, sole, findText?_overlay (distinct_singleton _), findText?_singleton,
    findText?_cleared]
  split <;> rfl

@[simp] theorem named_cleared : nameless standard.entries (cleared above) = false := rfl

@[simp] theorem named_sole :
    nameless (overlay standard.entries (cleared above)) (sole above key v) = false := by
  have found : (overlay standard.entries (cleared above)).find? (.text above) =
      some (.bool false) := (findText?_cleared standard above above).trans (if_pos rfl)
  rw [sole, nameless, namelessEntry, found]
  rfl

theorem sectionIn_sole (name : String) :
    sectionIn (gathered standard (cleared above) (sole above key v)).entries name =
      if above = name then [(.text key, v)] else sectionIn standard.entries name := by
  have found := findText?_sole standard above key v name
  split
  · rename_i same
    rw [if_pos same] at found
    exact sectionIn_eq found rfl
  · rename_i other
    rw [if_neg other] at found
    rw [sectionIn, found, ← sectionIn]

private theorem separate_sole :
    Separate (gathered standard (cleared above) (sole above key v)).entries where
  top := distinct_overlay (distinct_overlay (separate_entries standard).top _) _
  inside := by
    intro name isName
    rw [sectionIn_sole]
    split
    · exact distinct_singleton _
    · exact (separate_entries standard).inside name isName

private theorem isSection_sole {name : String} (isName : name ∈ sectionNames) :
    IsSection (gathered standard (cleared above) (sole above key v)).entries name := by
  intro w isSection
  rw [findText?_sole] at isSection
  split at isSection
  · cases isSection
    exact ⟨_, rfl⟩
  · exact (hasSections_entries standard).isSection isName w isSection

private theorem valueIn_sole {setting : Setting} (inSection : setting.sectionName? = some above)
    (other : Setting) :
    valueIn (gathered standard (cleared above) (sole above setting.key v)).entries other =
      if other = setting then some v
      else if other.sectionName? = some above then none
      else some (other.write (other.of standard)) := by
  rw [← valueIn_entries]
  unfold valueIn
  cases isOther : other.sectionName? with
  | none =>
      have differs : other ≠ setting := by
        rintro rfl
        cases isOther.symm.trans inSection
      have apart : above ≠ other.key := by
        rintro rfl
        exact absurd (sectionName_mem inSection) (by rw [key_of_top isOther]; decide)
      simp [differs, findText?_sole, apart]
  | some name =>
      simp only [sectionIn_sole]
      by_cases same : above = name
      · subst same
        have sameKey : setting.key = other.key ↔ other = setting :=
          ⟨fun isKey => Setting.key_injective isKey.symm, fun isSame => isSame ▸ rfl⟩
        simp [findText?_singleton, sameKey]
      · have differs : other ≠ setting := by
          rintro rfl
          cases isOther.symm.trans inSection
          exact same rfl
        have apart : name ≠ above := fun isSame => same isSame.symm
        simp [differs, same, apart]

@[simp] theorem textKeys_sole :
    textKeys (gathered standard (cleared above) (sole above key v)).entries = true := by
  have isText : ∀ inner : Value, ∀ entry ∈ [(Value.text above, inner)],
      entry.2.bare ≠ .null → IsText entry.1 := by
    intro inner entry member _
    rw [List.mem_singleton.mp member]
    exact ⟨above, rfl⟩
  have cleared := (textKeys_overlay standard.entries _).mpr ⟨rfl, isText (.bool false)⟩
  exact (textKeys_overlay _ _).mpr ⟨cleared, isText (.map [(.text key, v)])⟩

private theorem check_sole {environment : Environment} {defaults : Value.Entries}
    (isDefault : environmentDefaults environment = .ok defaults)
    (isStandard : fields defaults = .valid standard) {setting : Setting}
    (inSection : setting.sectionName? = some above) :
    check environment
        (.map (gathered standard (cleared above) (sole above setting.key v)).entries) =
      (setting.placed (setting.check (mergeOver ((behind? defaults setting).getD .null) v))).map
        (setting.put standard) := by
  have values := valueIn_sole standard above v inSection
  have apart : above ≠ sourcesKey := by
    rintro rfl
    exact absurd (sectionName_mem inSection) (by decide)
  refine check_of_single isDefault isStandard (textKeys_sole standard above setting.key v) ?_
    (((isHeaded_entries standard).overlay _).overlay _).isSpelled
    (separate_sole standard above setting.key v) (fun name => isSection_sole standard above _ v) ?_
    fun other differs => ?_
  · rw [findText?_sole, if_neg apart]
    rfl
  · rw [values, if_pos rfl]
  · rw [values, if_neg differs]
    split
    · exact .inl rfl
    · exact .inr rfl

end Sole

private theorem exists_argument {environment : Environment} {defaults inner : Value.Entries}
    {standard : Settings} (isDefault : environmentDefaults environment = .ok defaults)
    (isStandard : fields defaults = .valid standard) {setting : Setting}
    (isMap : behind? defaults setting = some (.map inner)) :
    ∃ above name, setting.sectionName? = some above ∧ ∀ v : Value, v.isUnmapped = false →
      argumentLayer [(.text name, v)] = .ok (sole above setting.key v) := by
  have passed := (fields_eq_valid.mp isStandard).2 setting
  rw [← behind?_eq isDefault, isMap] at passed
  have given : ∀ place ∈ argumentSettings, ∀ v : Value, v.isUnmapped = false →
      argumentLayer [(.text place.1, v)] = .ok (sole place.2.1 place.2.2 v) := by
    intro place isPlace v mapped
    simp only [argumentSettings, List.mem_cons, List.not_mem_nil, or_false] at isPlace
    rcases isPlace with rfl | rfl | rfl | rfl | rfl | rfl | rfl | rfl | rfl | rfl <;>
      cases v <;> first | rfl | cases mapped
  cases setting with
  | concurrency => exact ⟨_, _, rfl, given ("concurrency", "scan", "concurrency") (by decide)⟩
  | exclude => exact ⟨_, _, rfl, given ("exclude", "scan", "exclude") (by decide)⟩
  | ignoredRules =>
      exact ⟨_, _, rfl, given ("ignored_rules", "scan", "ignored_rules") (by decide)⟩
  | cacheEnabled => exact ⟨_, _, rfl, given ("cache", "cache", "enabled") (by decide)⟩
  | cacheFileName => exact ⟨_, _, rfl, given ("cache_file", "cache", "file_name") (by decide)⟩
  | cacheMaxAgeDays => cases passed
  | outputFormat => exact ⟨_, _, rfl, given ("format", "output", "format") (by decide)⟩
  | quiet => exact ⟨_, _, rfl, given ("quiet", "output", "quiet") (by decide)⟩
  | verbose => exact ⟨_, _, rfl, given ("verbose", "output", "verbose") (by decide)⟩
  | logLevel =>
      have isLevel := (findText?_environmentDefaults isDefault).2
      have isTop : defaults.findText? "log_level" = some (.map inner) := isMap
      rw [isTop] at isLevel
      obtain ⟨raw, _, isText⟩ := Option.map_eq_some_iff.mp isLevel.symm
      cases isText

private theorem Indistinct.values {first second : Environment}
    (same : Indistinct first second)
    {before after : Value.Entries} {standard : Settings}
    (isBefore : environmentDefaults first = .ok before)
    (isAfter : environmentDefaults second = .ok after)
    (validBefore : fields before = .valid standard) (validAfter : fields after = .valid standard)
    {setting : Setting} {above name : String}
    (inSection : setting.sectionName? = some above) {v : Value}
    (given : argumentLayer [(.text name, v)] = .ok (sole above setting.key v)) :
    setting.check (mergeOver ((behind? before setting).getD .null) v) =
      setting.check (mergeOver ((behind? after setting).getD .null) v) := by
  -- The file clears the section, so that the argument sets the section as a whole and `v` comes to
  -- the check as it is, even if merging it key by key would pass it over.
  have document : Json.Document Json.maxDepth (.map (cleared above)) :=
    .map [(above, _)] (by simp) (by
      simp only [List.forall_mem_cons]
      exact ⟨.bool false, List.forall_mem_nil _⟩)
  have read := fileEntries_diskWith document rfl
  let query : Query :=
    { configPath := some "/c.json", arguments := [(.text name, v)], useEnvironment := false }
  have resolves : ∀ {environment defaults}, environmentDefaults environment = .ok defaults →
      fields defaults = .valid standard →
      resolve ⟨diskWith (cleared above), environment, []⟩ query =
        (checked environment
          (gathered standard (cleared above) (sole above setting.key v)).entries).map
          fun settings => ⟨settings, some (.ofText "/c.json"),
            (gathered standard (cleared above) (sole above setting.key v)).sources⟩ := by
    intro environment defaults isDefault isStandard
    have isStandard := check_nil_eq_valid.mpr ⟨defaults, isDefault, isStandard⟩
    exact resolve_eq_gathered rfl isStandard rfl read (named_cleared standard above) given
      (named_sole standard above setting.key v)
  have checks := same (diskWith (cleared above)) [] query rfl
  rw [resolves isBefore validBefore, resolves isAfter validAfter] at checks
  have drafts := check_of_checked (map_ok_injective (fun _ _ isSame => by cases isSame; rfl) checks)
  rw [check_sole standard above v isBefore validBefore inSection,
    check_sole standard above v isAfter validAfter inSection] at drafts
  exact setting.placed_injective (Checked.map_injective (setting.put_injective standard) drafts)

private theorem Indistinct.sameBackground {first second : Environment}
    (same : Indistinct first second) :
    SameBackground first second := by
  have standards : check first (.map []) = check second (.map []) := by
    have resolves := same (diskWith []) [] .ofNothing rfl
    rw [resolve_nothing, resolve_nothing] at resolves
    exact check_of_checked (map_ok_injective (fun _ _ isSame => by cases isSame; rfl) resolves)
  refine ⟨standards, ?_⟩
  rintro before after isBefore isAfter ⟨standard, validBefore⟩ setting v
  have validAfter : fields after = .valid standard := by
    have isStandard := check_nil_eq_valid.mpr ⟨before, isBefore, validBefore⟩
    obtain ⟨_, isSame, valid⟩ := check_nil_eq_valid.mp (standards.symm.trans isStandard)
    cases isAfter.symm.trans isSame
    exact valid
  cases mapped : v.isUnmapped with
  | true => rw [mergeOver_unmapped mapped, mergeOver_unmapped mapped]
  | false =>
      -- A mapping is merged into a default that is one; all other values take its place.
      by_cases isMap : ∃ inner, behind? before setting = some (.map inner) ∨
          behind? after setting = some (.map inner)
      · obtain ⟨inner, isMap⟩ := isMap
        obtain ⟨above, name, inSection, given⟩ := isMap.elim
          (exists_argument isBefore validBefore) (exists_argument isAfter validAfter)
        exact same.values isBefore isAfter validBefore validAfter inSection
          (given v mapped)
      · have unmapped : ∀ v? : Option Value, (∀ inner, v? ≠ some (.map inner)) →
            ∀ inner, v?.getD .null ≠ .map inner := by
          rintro (_ | w) noMap inner isSame
          · cases isSame
          · exact noMap inner (congrArg some isSame)
        simp only [not_exists, not_or] at isMap
        rw [mergeOver_eq_self (unmapped _ fun inner => (isMap inner).1),
          mergeOver_eq_self (unmapped _ fun inner => (isMap inner).2)]

private theorem SameBackground.indistinct {first second : Environment}
    (same : SameBackground first second) : Indistinct first second := by
  intro fs userDirectories query aside
  refine resolve_congr aside same.standard ?_
  intro standard file layer arguments isStandard read given
  have headed := ((isHeaded_entries standard).overlay layer).overlay arguments
  have separateFile := separate_of_tidy (fileLayer_tidy read 2)
  have separateArguments : Separate arguments := by
    rw [argumentLayer_eq given]
    exact (isLayer_foldl fun _ => known_argument).1.separate
  exact check_congr same isStandard headed.isSpelled
    (((separate_entries standard).merged separateFile).merged separateArguments)

/-- The log level of the environment is taken though the environment is left aside, and no source
is recorded for it. -/
theorem log_level_not_left_aside (fs : FileSystem) :
    let environment : Environment := [("MOBSENTRY_LOG_LEVEL", "debug")]
    (∃ resolved, resolve ⟨fs, environment, []⟩ .ofNothing = .ok resolved ∧
      resolved.settings.logLevel = .debug ∧ resolved.sources = []) ∧
      ∃ resolved, resolve ⟨fs, [], []⟩ .ofNothing = .ok resolved ∧
        resolved.settings.logLevel = .warning := by
  intro environment
  rw [resolve_nothing, resolve_nothing]
  exact ⟨⟨_, rfl, rfl, rfl⟩, _, rfl, rfl⟩

end MobileAudit.Settings
