import MobileAudit.Proofs.Settings.Outcomes
import MobileAudit.Proofs.Settings.Precedence
import MobileAudit.Proofs.Settings.Variables

namespace MobileAudit.Settings

open Check Checked Disk

/-! Settings from variables alone.  A variable whose value makes no sense gives none and leaves the
default in place, except that a word is taken as it is: one that names no choice stops the
resolution. -/

/-! Values of variables. -/

/-- The value that the variables give for a setting. -/
def variableValue? (environment : Environment) : Setting → Option Value :=
  Assignment.last? (settingVariables.filterMap (·.assignment? environment))

theorem exists_variable {environment : Environment} {setting : Setting} {v : Value}
    (found : variableValue? environment setting = some v) :
    ∃ source ∈ settingVariables, source.sectionName = setting.sectionName? ∧
      source.key = setting.key ∧
      ∃ raw, environment.lookup source.name = some raw ∧ v = source.parse raw ∧ v ≠ .null := by
  unfold variableValue? Assignment.last? at found
  obtain ⟨assignment, isLast, rfl⟩ := Option.map_eq_some_iff.mp found
  obtain ⟨member, isFor⟩ := List.mem_filter.mp (List.mem_of_getLast? isLast)
  obtain ⟨isSection, isKey⟩ := Assignment.isFor_iff.mp isFor
  obtain ⟨source, isSource, given⟩ := List.mem_filterMap.mp member
  obtain ⟨raw, isSet, stated, rfl⟩ := Variable.assignment?_eq_some.mp given
  exact ⟨source, isSource, isSection, isKey, raw, isSet, rfl, stated⟩

/-! Resolutions. -/

/-- The query for the settings of variables, without a file and arguments. -/
def Query.ofVariables (configPath start : Option String) : Query :=
  { configPath, useFile := false, start }

section OfVariables

variable (origin : Origin) (configPath start : Option String)

def variableDecision (standard : Settings) : Setting → Source × Value :=
  decidedBy .environment (variableValue? origin.environment) fun setting =>
    (.default, setting.write (setting.of standard))

def variableDraft (standard : Settings) : Draft :=
  (draftOf origin (.ofVariables configPath start) standard []).overlaid .commandLine []

theorem decided_variableDraft (standard : Settings) :
    Decided (variableDraft origin configPath start standard)
      (variableDecision origin standard) := by
  have isDraft : variableDraft origin configPath start standard =
      Draft.overlaid ⟨standard.entries, []⟩ .environment
        (environmentLayer origin (.ofVariables configPath start)) := rfl
  rw [isDraft, environmentLayer_eq]
  exact (decided_entries standard).assigned (fun _ => known_variableAssignments)
    (fun _ => unmapped_variable) .environment

private theorem textKeys_variableDraft (standard : Settings) :
    textKeys (variableDraft origin configPath start standard).entries = true := by
  have isDraft : (variableDraft origin configPath start standard).entries =
      overlay standard.entries (environmentLayer origin (.ofVariables configPath start)) := rfl
  rw [isDraft, textKeys_overlay, environmentLayer_eq]
  exact ⟨rfl, (isLayer_foldl fun _ => known_variableAssignments).1.sets.texts⟩

private theorem unmapped_variableDecision (standard : Settings) (setting : Setting) :
    (variableDecision origin standard setting).2.isUnmapped = true := by
  unfold variableDecision decidedBy
  cases isGiven : given? (variableValue? origin.environment setting) with
  | none => exact unmapped_write setting _
  | some v =>
      obtain ⟨source, isSource, _, _, raw, _, rfl, _⟩ :=
        exists_variable (given?_eq_some.mp isGiven).1
      exact isUnmapped_parse source isSource raw

theorem variableDecision_eq (standard : Settings) (setting : Setting) :
    variableDecision origin standard setting =
      (variableValue? origin.environment setting).elim
        (.default, setting.write (setting.of standard)) fun v => (.environment, v) := by
  rw [variableDecision, decidedBy]
  cases found : variableValue? origin.environment setting with
  | none => rfl
  | some v =>
      obtain ⟨source, isSource, _, _, raw, _, rfl, stated⟩ := exists_variable found
      have isGiven : given? (some (source.parse raw)) = some (source.parse raw) := by
        refine given?_eq_some.mpr ⟨rfl, ?_⟩
        rwa [Value.bare_of_isUnmapped (isUnmapped_parse source isSource raw)]
      rw [isGiven]

/-- A resolution from variables alone makes of each setting what its check makes of its value. -/
theorem resolve_variables_eq_ok {resolved : Resolved} :
    resolve origin (.ofVariables configPath start) = .ok resolved ↔
      ∃ standard, check origin.environment (.map []) = .valid standard ∧
        (∀ setting : Setting,
          setting.check (variableDecision origin standard setting).2 =
            .valid (setting.of resolved.settings)) ∧
        resolved.file = none ∧
        resolved.sources = (variableDraft origin configPath start standard).sources := by
  have chosen : chooseFile origin (.ofVariables configPath start) = .ok none := rfl
  have passes : ∀ standard, check origin.environment (.map []) = .valid standard →
      (check origin.environment (.map (variableDraft origin configPath start standard).entries) =
          .valid resolved.settings ↔
        ∀ setting : Setting,
          setting.check (variableDecision origin standard setting).2 =
            .valid (setting.of resolved.settings)) := by
    intro standard isStandard
    obtain ⟨defaults, isDefault, valid⟩ := check_nil_eq_valid.mp isStandard
    exact (decided_variableDraft origin configPath start standard).check_eq_valid isDefault valid
      (textKeys_variableDraft origin configPath start standard)
      (unmapped_variableDecision origin standard)
  rw [resolve_eq_ok]
  constructor
  · rintro ⟨standard, layer, arguments, resolution⟩
    have isFile := Except.ok.inj (chosen.symm.trans resolution.chosen)
    have read := resolution.read
    rw [← isFile] at read
    cases read
    cases resolution.given
    have passed := (passes standard resolution.isDefault).mp resolution.valid
    exact ⟨standard, resolution.isDefault, passed, isFile.symm, resolution.sources⟩
  · rintro ⟨standard, isStandard, passed, isFile, sources⟩
    exact ⟨standard, [], [], isStandard, by rw [chosen, isFile], by rw [isFile]; rfl, rfl,
      named_environmentLayer origin _ _, rfl, rfl, (passes standard isStandard).mpr passed, sources⟩

end OfVariables

/-! Words. -/

theorem last?_variables_cons (environment : Environment) (source : Variable)
    (sources : List Variable) (setting : Setting) :
    Assignment.last? ((source :: sources).filterMap (·.assignment? environment)) setting =
      (Assignment.last? (sources.filterMap (·.assignment? environment)) setting).or
        (if source.sectionName == setting.sectionName? && source.key == setting.key then
          (source.assignment? environment).map (·.value) else none) := by
  rw [List.filterMap_cons]
  cases given : source.assignment? environment with
  | none => simp
  | some assignment =>
      obtain ⟨raw, _, _, rfl⟩ := Variable.assignment?_eq_some.mp given
      simp only [Assignment.last?_cons]
      rfl

private theorem variableValue?_outputFormat {environment : Environment} {raw : String}
    (isSet : environment.lookup "MOBSENTRY_OUTPUT_FORMAT" = some raw) :
    variableValue? environment .outputFormat = some (parseWord raw) := by
  simp only [variableValue?, settingVariables, last?_variables_cons, List.filterMap_nil]
  simp [Setting.sectionName?, Setting.key, Variable.assignment?, isSet, parseWord, Assignment.last?]

private theorem variableValue?_logLevel {environment : Environment} {raw : String}
    (isSet : environment.lookup "MOBSENTRY_LOG_LEVEL" = some raw) :
    variableValue? environment .logLevel = some (parseWord raw) := by
  simp only [variableValue?, settingVariables, last?_variables_cons, List.filterMap_nil]
  simp [Setting.sectionName?, Setting.key, Variable.assignment?, isSet, parseWord, Assignment.last?]

/-- Every value of a variable passes the check of its setting, unless it is a word. -/
theorem exists_check_variable {environment : Environment}
    (format : ∀ raw, environment.lookup "MOBSENTRY_OUTPUT_FORMAT" = some raw →
      ∃ choice, checkFormat (parseWord raw) = .valid choice)
    (level : ∀ raw, environment.lookup "MOBSENTRY_LOG_LEVEL" = some raw →
      ∃ choice, checkLogLevel (parseWord raw) = .valid choice)
    {setting : Setting} {v : Value} (found : variableValue? environment setting = some v) :
    ∃ a, setting.check v = .valid a := by
  obtain ⟨source, isSource, _, isKey, raw, isSet, rfl, stated⟩ := exists_variable found
  simp only [settingVariables, List.mem_cons, List.not_mem_nil, or_false] at isSource
  rcases isSource with rfl | rfl | rfl | rfl | rfl | rfl | rfl | rfl
  · obtain rfl : setting = .concurrency := Setting.key_injective isKey.symm
    simp only [parseCount] at stated ⊢
    split at stated
    · exact ⟨_, rfl⟩
    · exact absurd rfl stated
  · obtain rfl : setting = .exclude := Setting.key_injective isKey.symm
    exact ⟨_, convertItems_texts _⟩
  · obtain rfl : setting = .ignoredRules := Setting.key_injective isKey.symm
    exact ⟨_, convertItems_texts _⟩
  · obtain rfl : setting = .cacheEnabled := Setting.key_injective isKey.symm
    exact ⟨_, rfl⟩
  · obtain rfl : setting = .outputFormat := Setting.key_injective isKey.symm
    exact format raw isSet
  · obtain rfl : setting = .quiet := Setting.key_injective isKey.symm
    exact ⟨_, rfl⟩
  · obtain rfl : setting = .verbose := Setting.key_injective isKey.symm
    exact ⟨_, rfl⟩
  · obtain rfl : setting = .logLevel := Setting.key_injective isKey.symm
    exact level raw isSet

/-! Documented variables. -/

/-- An environment whose variables give no defaults, apart from the variable for the cache and the
one for the log level, which are read as such as well. -/
structure IsDocumented (environment : Environment) : Prop where
  names : ∀ entry ∈ background environment,
    entry.1 = "MOBSENTRY_CACHE" ∨ entry.1 = "MOBSENTRY_LOG_LEVEL"
  once : (environment.map (·.1)).Nodup

/-- The default of the cache section that a document gives. -/
def cacheDefault (raw : String) : Except Unreadable (Option Value) :=
  sectionDefault [("mobsentry_cache", raw)] "cache" ["enabled", "file_name", "max_age_days"]

private theorem sectionDefaults_of_documented {environment : Environment}
    (documented : IsDocumented environment) :
    sectionDefault (foldNames environment) "scan" ["concurrency", "exclude", "ignored_rules"] =
        .ok none ∧
      sectionDefault (foldNames environment) "cache" ["enabled", "file_name", "max_age_days"] =
        (environment.lookup "MOBSENTRY_CACHE").elim (.ok none) cacheDefault ∧
      sectionDefault (foldNames environment) "output" ["format", "quiet", "verbose"] =
        .ok none ∧
      (foldNames environment).lookup "mobsentry_log_level" =
        environment.lookup "MOBSENTRY_LOG_LEVEL" := by
  have known : ∀ name, isBackground (Text.lower name) = true →
      (background environment).lookup name = environment.lookup name := fun name isKnown =>
    lookup_filter (fun name => isBackground (Text.lower name)) isKnown environment
  have folds : foldNames (background environment) =
      (foldNames environment).filter fun entry => isBackground entry.1 :=
    foldNames_filter isBackground environment
  have sections : ∀ {above : String}, above ∈ sectionNames → ∀ keys,
      sectionDefault (foldNames environment) above keys =
        sectionDefault (foldNames (background environment)) above keys := by
    intro above isName keys
    rw [folds, sectionDefault_background isName]
  have level : (foldNames environment).lookup "mobsentry_log_level" =
      (foldNames (background environment)).lookup "mobsentry_log_level" := by
    rw [folds, lookup_filter isBackground rfl]
  rw [sections (by decide), sections (by decide), sections (by decide), level,
    ← known "MOBSENTRY_CACHE" (by decide +kernel),
    ← known "MOBSENTRY_LOG_LEVEL" (by decide +kernel)]
  have names := documented.names
  have once : ((background environment).map (·.1)).Nodup :=
    documented.once.sublist (List.filter_sublist.map _)
  -- Distinct names out of two leave at most two variables.
  generalize background environment = given at names once ⊢
  match given with
  | [] => exact ⟨rfl, rfl, rfl, rfl⟩
  | [(name, raw)] =>
      obtain rfl | rfl := names (name, raw) (by simp)
      · exact ⟨rfl, rfl, rfl, rfl⟩
      · exact ⟨rfl, rfl, rfl, rfl⟩
  | [(name, raw), (name', raw')] =>
      obtain rfl | rfl := names (name, raw) (by simp)
      · obtain rfl | rfl := names (name', raw') (by simp)
        · simp at once
        · exact ⟨rfl, rfl, rfl, rfl⟩
      · obtain rfl | rfl := names (name', raw') (by simp)
        · exact ⟨rfl, rfl, rfl, rfl⟩
        · simp at once
  | first :: second :: third :: rest =>
      obtain isFirst | isFirst := names first (by simp) <;>
        obtain isSecond | isSecond := names second (by simp) <;>
        obtain isThird | isThird := names third (by simp) <;>
        simp [isFirst, isSecond, isThird] at once

/-- A document that the variable for the cache may hold: `null`, or the settings of the cache. -/
def IsCacheDocument (raw : String) : Prop :=
  Json.read? raw = some .null ∨
    ∃ entries cache, Json.read? raw = some (.map entries) ∧
      cacheFields (settleKeys ["enabled", "file_name", "max_age_days"] entries) = .valid cache

def checkCache (v? : Option Value) : Checked CacheSettings :=
  v?.elim (.valid {}) (record "CacheSettings" cacheFields)

theorem cacheDefault_eq (raw : String) :
    cacheDefault raw =
      match readDocument "cache" raw with
      | .error unreadable => .error unreadable
      | .ok .null => .ok none
      | .ok (.map entries) =>
          .ok (some (.map (settleKeys ["enabled", "file_name", "max_age_days"] entries)))
      | .ok v => .ok (some v) := by
  have found : List.lookup ("mobsentry_" ++ "cache") [("mobsentry_cache", raw)] = some raw := rfl
  have noNested : nestedEntries "cache" [("mobsentry_cache", raw)] [] = .ok [] := rfl
  unfold cacheDefault sectionDefault
  simp only [noNested, found]
  cases readDocument "cache" raw with
  | error unreadable => rfl
  | ok v => cases v <;> rfl

theorem isCacheDocument_iff (raw : String) :
    IsCacheDocument raw ↔
      ∃ v? cache, cacheDefault raw = .ok v? ∧ checkCache v? = .valid cache := by
  have read : ∀ v, Json.read? raw = some v ↔ readDocument "cache" raw = .ok v := fun v =>
    readDocument_eq_ok.symm
  rw [cacheDefault_eq, IsCacheDocument]
  simp only [read]
  cases isRead : readDocument "cache" raw with
  | error unreadable => simp
  | ok v =>
      have bare := Json.read?_bare ((read v).mpr isRead)
      cases v with
      | null => simp [checkCache]
      | map entries => simp [checkCache, record, Value.bare]
      | loop label v => exact absurd bare (v.bare_ne_loop label v)
      | _ => simp [checkCache, record, Value.bare, flawed]

theorem exists_fields_iff {defaults : Value.Entries} (scan : defaults.findText? "scan" = none)
    (output : defaults.findText? "output" = none) :
    (∃ standard, fields defaults = .valid standard) ↔
      (∃ cache, checkCache (defaults.findText? "cache") = .valid cache) ∧
        ∃ level, Setting.logLevel.outcome (defaults.findText? "log_level") = .valid level := by
  simp only [fields, map_eq_valid, and_eq_valid, optional_eq_valid, scan, output, checkCache,
    Option.elim_none]
  constructor
  · rintro ⟨_, ⟨_, ⟨_, isCache, _, isLevel⟩, _⟩⟩
    exact ⟨⟨_, isCache⟩, _, isLevel⟩
  · rintro ⟨⟨cache, isCache⟩, level, isLevel⟩
    exact ⟨_, ⟨({}, cache, {}, level), ⟨rfl, isCache, rfl, isLevel⟩, rfl⟩⟩

theorem exists_level_iff (raw? : Option String) :
    (∃ level, Setting.logLevel.outcome (raw?.map .text) = .valid level) ↔
      ∀ raw, raw? = some raw → ∃ level, checkLogLevel (.text raw) = .valid level := by
  unfold Setting.outcome
  cases raw? with
  | none => simp
  | some raw =>
      simp only [Option.map_some, Option.elim_some, Option.some.injEq, forall_eq']
      rfl

/-- In an environment of documented variables there are standard settings exactly if the document
for the cache holds settings of it and the word for the log level names one. -/
theorem exists_standard_iff {environment : Environment} (documented : IsDocumented environment) :
    (∃ standard, check environment (.map []) = .valid standard) ↔
      (∀ raw, environment.lookup "MOBSENTRY_CACHE" = some raw → IsCacheDocument raw) ∧
        ∀ raw, environment.lookup "MOBSENTRY_LOG_LEVEL" = some raw →
          ∃ level, checkLogLevel (.text raw) = .valid level := by
  obtain ⟨scan, cache, output, isLevel⟩ := sectionDefaults_of_documented documented
  have parts : ∀ defaults, environmentDefaults environment = .ok defaults →
      ((∃ standard, fields defaults = .valid standard) ↔
        (∃ cache, checkCache (defaults.findText? "cache") = .valid cache) ∧
          ∀ raw, environment.lookup "MOBSENTRY_LOG_LEVEL" = some raw →
            ∃ level, checkLogLevel (.text raw) = .valid level) := by
    intro defaults isDefault
    obtain ⟨places, level⟩ := findText?_environmentDefaults isDefault
    have noScan := scan.symm.trans (places ("scan", _) (by decide))
    have noOutput := output.symm.trans (places ("output", _) (by decide))
    rw [exists_fields_iff (Except.ok.inj noScan).symm (Except.ok.inj noOutput).symm, level, isLevel]
    exact and_congr Iff.rfl (exists_level_iff _)
  simp only [check_nil_eq_valid]
  constructor
  · rintro ⟨standard, defaults, isDefault, valid⟩
    obtain ⟨⟨settings, isCache⟩, level⟩ := (parts defaults isDefault).mp ⟨standard, valid⟩
    refine ⟨fun raw isSet => ?_, level⟩
    have given := (findText?_environmentDefaults isDefault).1
      ("cache", ["enabled", "file_name", "max_age_days"]) (by decide)
    rw [isSet] at cache
    exact (isCacheDocument_iff raw).mpr ⟨_, settings, cache.symm.trans given, isCache⟩
  · rintro ⟨documents, level⟩
    obtain ⟨v?, settings, given, passed⟩ : ∃ v? settings,
        sectionDefault (foldNames environment) "cache" ["enabled", "file_name", "max_age_days"] =
          .ok v? ∧ checkCache v? = .valid settings := by
      rw [cache]
      cases isSet : environment.lookup "MOBSENTRY_CACHE" with
      | none => exact ⟨none, {}, rfl, rfl⟩
      | some raw => exact (isCacheDocument_iff raw).mp (documents raw isSet)
    obtain ⟨defaults, isDefault⟩ : ∃ defaults, environmentDefaults environment = .ok defaults := by
      refine exists_environmentDefaults ?_
      simp only [sectionKeys, List.forall_mem_cons]
      exact ⟨⟨none, scan⟩, ⟨v?, given⟩, ⟨none, output⟩, List.forall_mem_nil _⟩
    have place := (findText?_environmentDefaults isDefault).1
      ("cache", ["enabled", "file_name", "max_age_days"]) (by decide)
    have isCache : checkCache (defaults.findText? "cache") = .valid settings := by
      rw [← Except.ok.inj (given.symm.trans place)]
      exact passed
    obtain ⟨standard, valid⟩ := (parts defaults isDefault).mpr ⟨⟨settings, isCache⟩, level⟩
    exact ⟨standard, defaults, isDefault, valid⟩

/-! Stray variables. -/

/-- From variables alone there are settings exactly if the environment has standard settings, and
the words for the output format and the log level name one.  Each setting is then what its variable
gives, or the standard one where the value of the variable makes no sense.  If the environment has
no other variables for defaults than the documented ones, it has standard settings exactly if the
document for the cache holds settings of it and the word for the log level names one without being
trimmed. -/
theorem stray_variables_dropped (origin : Origin) (configPath start : Option String) :
    ((∃ resolved, resolve origin (.ofVariables configPath start) = .ok resolved) ↔
      (∃ standard, check origin.environment (.map []) = .valid standard) ∧
        (∀ raw, origin.environment.lookup "MOBSENTRY_OUTPUT_FORMAT" = some raw →
          ∃ format, checkFormat (parseWord raw) = .valid format) ∧
        ∀ raw, origin.environment.lookup "MOBSENTRY_LOG_LEVEL" = some raw →
          ∃ level, checkLogLevel (parseWord raw) = .valid level) ∧
    (∀ resolved standard, resolve origin (.ofVariables configPath start) = .ok resolved →
      check origin.environment (.map []) = .valid standard → ∀ setting : Setting,
        match variableValue? origin.environment setting with
        | some v => setting.check v = .valid (setting.of resolved.settings) ∧
            resolved.sources.of setting.name = .environment
        | none => setting.of resolved.settings = setting.of standard ∧
            resolved.sources.of setting.name = .default) ∧
    (IsDocumented origin.environment →
      ((∃ standard, check origin.environment (.map []) = .valid standard) ↔
        (∀ raw, origin.environment.lookup "MOBSENTRY_CACHE" = some raw → IsCacheDocument raw) ∧
          ∀ raw, origin.environment.lookup "MOBSENTRY_LOG_LEVEL" = some raw →
            ∃ level, checkLogLevel (.text raw) = .valid level)) := by
  have isResolved := @resolve_variables_eq_ok origin configPath start
  simp only [variableDecision_eq] at isResolved
  -- Two checks have to be passed: that of the environment by itself, and for each setting that of
  -- the value decided for it, which only a word can fail.
  refine ⟨⟨?_, ?_⟩, ?_, exists_standard_iff⟩
  · rintro ⟨resolved, success⟩
    obtain ⟨standard, isStandard, passed, _⟩ := isResolved.mp success
    refine ⟨⟨standard, isStandard⟩, fun raw isSet => ⟨resolved.settings.output.format, ?_⟩,
      fun raw isSet => ⟨resolved.settings.logLevel, ?_⟩⟩
    · have passed := passed .outputFormat
      rw [variableValue?_outputFormat isSet] at passed
      exact passed
    · have passed := passed .logLevel
      rw [variableValue?_logLevel isSet] at passed
      exact passed
  · rintro ⟨⟨standard, isStandard⟩, format, level⟩
    obtain ⟨defaults, _, valid⟩ := check_nil_eq_valid.mp isStandard
    have passes : ∀ setting : Setting, ∃ a,
        setting.check (variableDecision origin standard setting).2 = .valid a := by
      intro setting
      rw [variableDecision_eq]
      cases found : variableValue? origin.environment setting with
      | none => exact ⟨_, check_write_of_valid valid setting⟩
      | some v => exact exists_check_variable format level found
    refine ⟨⟨Setting.gather fun setting => (passes setting).choose, none, _⟩,
      isResolved.mpr ⟨standard, isStandard, fun setting => ?_, rfl, rfl⟩⟩
    rw [Setting.of_gather, ← variableDecision_eq]
    exact (passes setting).choose_spec
  · intro resolved standard success isStandard setting
    obtain ⟨found, isSame, passed, _, sources⟩ := isResolved.mp success
    cases isStandard.symm.trans isSame
    obtain ⟨_, _, valid⟩ := check_nil_eq_valid.mp isStandard
    have passed := passed setting
    have source := (decided_variableDraft origin configPath start standard).source setting
    rw [← sources, variableDecision_eq] at source
    cases found : variableValue? origin.environment setting with
    | none =>
        rw [found] at passed source
        have isStandard := passed.symm.trans (check_write_of_valid valid setting)
        exact ⟨Checked.valid.inj isStandard, source⟩
    | some v =>
        rw [found] at passed source
        exact ⟨passed, source⟩

/-- A count that is none is dropped, beside variables that make sense. -/
theorem stray_count_dropped :
    let origin : Origin :=
      { fs := diskWith []
        environment := [("MOBSENTRY_CONCURRENCY", "many"), ("MOBSENTRY_CACHE", "null"),
          ("MOBSENTRY_OUTPUT_FORMAT", " JSON "), ("MOBSENTRY_LOG_LEVEL", "Debug")] }
    ∃ resolved, resolve origin (.ofVariables none none) = .ok resolved ∧
      resolved.settings.scan.concurrency = defaultConcurrency ∧
      resolved.sources.of "scan.concurrency" = .default ∧
      resolved.settings.output.format = .json ∧ resolved.settings.cache.enabled = false := by
  intro origin
  obtain ⟨answered, values, standards⟩ := stray_variables_dropped origin none none
  have documented : IsDocumented origin.environment :=
    { names := by
        have given : background origin.environment =
          [("MOBSENTRY_CACHE", "null"), ("MOBSENTRY_LOG_LEVEL", "Debug")] := by decide +kernel
        simp [given]
      once := by decide +kernel }
  obtain ⟨standard, isStandard⟩ := (standards documented).mpr ⟨by
    rintro raw ⟨⟩
    exact .inl rfl, by
    rintro raw ⟨⟩
    exact ⟨.debug, rfl⟩⟩
  have isSame : check origin.environment (.map []) = .valid { logLevel := .debug } := rfl
  cases isSame.symm.trans isStandard
  obtain ⟨resolved, success⟩ := answered.mpr ⟨⟨_, isStandard⟩, by
    rintro raw ⟨⟩
    exact ⟨.json, rfl⟩, by
    rintro raw ⟨⟩
    exact ⟨.debug, rfl⟩⟩
  obtain ⟨concurrency, noSource⟩ := values resolved _ success isStandard .concurrency
  have isFormat : checkFormat (parseWord " JSON ") = .valid .json := rfl
  have format : checkFormat (parseWord " JSON ") = .valid resolved.settings.output.format :=
    And.left (values resolved _ success isStandard .outputFormat)
  have enabled : Checked.valid false = .valid resolved.settings.cache.enabled :=
    And.left (values resolved _ success isStandard .cacheEnabled)
  exact ⟨resolved, success, concurrency, noSource,
    (Checked.valid.inj (isFormat.symm.trans format)).symm, (Checked.valid.inj enabled).symm⟩

/-- A word that names no output format stops the resolution. -/
theorem unknown_format_stops (fs : FileSystem) :
    resolve ⟨fs, [("MOBSENTRY_OUTPUT_FORMAT", "xml")], []⟩ (.ofVariables none none) =
      .error (.config (.invalid
        [⟨["output", "format"], .rejected "format must be one of: table, json"⟩])) := by
  rfl

end MobileAudit.Settings
