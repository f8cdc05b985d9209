import MobileAudit.Proofs.Document.Keys
import MobileAudit.Proofs.Text.Pieces
import MobileAudit.Settings.Environment

namespace MobileAudit

/-! Single settings.  Data is valid exactly if its sections are mappings and every value in it
passes the check of its own setting; what a check gives is written so that it passes again. -/

/-! Checks that succeed. -/

namespace Check

namespace Checked

variable {α β : Type}

@[simp] theorem map_eq_valid {checked : Checked α} {f : α → β} {b : β} :
    checked.map f = .valid b ↔ ∃ a, checked = .valid a ∧ f a = b := by
  cases checked with
  | valid a => simp [map]
  | invalid problems => simp [map]
  | broken cause => simp [map]

@[simp] theorem bind_eq_valid {checked : Checked α} {next : α → Checked β} {b : β} :
    checked.bind next = .valid b ↔ ∃ a, checked = .valid a ∧ next a = .valid b := by
  cases checked with
  | valid a => simp [bind]
  | invalid problems => simp [bind]
  | broken cause => simp [bind]

@[simp] theorem under_eq_valid {step : String} {checked : Checked α} {a : α} :
    checked.under step = .valid a ↔ checked = .valid a := by
  cases checked with
  | valid b => exact Iff.rfl
  | invalid problems => simp [under]
  | broken cause => simp [under]

@[simp] theorem and_eq_valid {first : Checked α} {second : Checked β} {pair : α × β} :
    first.and second = .valid pair ↔ first = .valid pair.1 ∧ second = .valid pair.2 := by
  obtain ⟨a, b⟩ := pair
  cases first <;> cases second <;> simp [Checked.and]

end Checked

open Checked

theorem optional_eq_valid {α : Type} {entries : Value.Entries} {key : String} {fallback a : α}
    {check : Value → Checked α} :
    optional entries [key] fallback check = .valid a ↔
      (entries.findText? key).elim (.valid fallback) check = .valid a := by
  rw [optional, under_eq_valid, fieldValue?, List.findSome?_cons]
  cases entries.findText? key <;> exact Iff.rfl

end Check

namespace Settings

open Check Checked

/-- The settings. -/
inductive Setting where
  | concurrency
  | exclude
  | ignoredRules
  | cacheEnabled
  | cacheFileName
  | cacheMaxAgeDays
  | outputFormat
  | quiet
  | verbose
  | logLevel
deriving DecidableEq

namespace Setting

def sectionName? : Setting → Option String
  | concurrency => some "scan"
  | exclude => some "scan"
  | ignoredRules => some "scan"
  | cacheEnabled => some "cache"
  | cacheFileName => some "cache"
  | cacheMaxAgeDays => some "cache"
  | outputFormat => some "output"
  | quiet => some "output"
  | verbose => some "output"
  | logLevel => none

def key : Setting → String
  | concurrency => "concurrency"
  | exclude => "exclude"
  | ignoredRules => "ignored_rules"
  | cacheEnabled => "enabled"
  | cacheFileName => "file_name"
  | cacheMaxAgeDays => "max_age_days"
  | outputFormat => "format"
  | quiet => "quiet"
  | verbose => "verbose"
  | logLevel => "log_level"

/-- The name under which the source of a setting is recorded. -/
def name (setting : Setting) : String :=
  match setting.sectionName? with
  | some above => above ++ "." ++ setting.key
  | none => setting.key

abbrev Kind : Setting → Type
  | concurrency => Int
  | exclude => List String
  | ignoredRules => List String
  | cacheEnabled => Bool
  | cacheFileName => String
  | cacheMaxAgeDays => Int
  | outputFormat => OutputFormat
  | quiet => Bool
  | verbose => Bool
  | logLevel => LogLevel

/-- The check of the values of a setting. -/
def check : (setting : Setting) → Value → Checked setting.Kind
  | concurrency => checkConcurrency
  | exclude => convertTexts
  | ignoredRules => convertTexts
  | cacheEnabled => truth
  | cacheFileName => checkFileName
  | cacheMaxAgeDays => integerAtLeast 0
  | outputFormat => checkFormat
  | quiet => truth
  | verbose => truth
  | logLevel => checkLogLevel

def of : (setting : Setting) → Settings → setting.Kind
  | concurrency => fun settings => settings.scan.concurrency
  | exclude => fun settings => settings.scan.exclude
  | ignoredRules => fun settings => settings.scan.ignoredRules
  | cacheEnabled => fun settings => settings.cache.enabled
  | cacheFileName => fun settings => settings.cache.fileName
  | cacheMaxAgeDays => fun settings => settings.cache.maxAgeDays
  | outputFormat => fun settings => settings.output.format
  | quiet => fun settings => settings.output.quiet
  | verbose => fun settings => settings.output.verbose
  | logLevel => fun settings => settings.logLevel

def fallback (setting : Setting) : setting.Kind := setting.of {}

def outcome (setting : Setting) (v? : Option Value) : Checked setting.Kind :=
  v?.elim (.valid setting.fallback) setting.check

/-- The value that stands for what a setting is. -/
def write : (setting : Setting) → setting.Kind → Value
  | concurrency => .int
  | exclude => fun texts => .list (texts.map .text)
  | ignoredRules => fun texts => .list (texts.map .text)
  | cacheEnabled => .bool
  | cacheFileName => .text
  | cacheMaxAgeDays => .int
  | outputFormat => fun format => .text format.name
  | quiet => .bool
  | verbose => .bool
  | logLevel => fun level => .text level.name

def gather (kinds : (setting : Setting) → setting.Kind) : Settings where
  scan := ⟨kinds concurrency, kinds exclude, kinds ignoredRules⟩
  cache := ⟨kinds cacheEnabled, kinds cacheFileName, kinds cacheMaxAgeDays⟩
  output := ⟨kinds outputFormat, kinds quiet, kinds verbose⟩
  logLevel := kinds logLevel

@[simp] theorem of_gather (kinds : (setting : Setting) → setting.Kind) (setting : Setting) :
    setting.of (gather kinds) = kinds setting := by
  cases setting <;> rfl

theorem forall_iff {P : Setting → Prop} :
    (∀ setting, P setting) ↔
      (P concurrency ∧ P exclude ∧ P ignoredRules) ∧
        (P cacheEnabled ∧ P cacheFileName ∧ P cacheMaxAgeDays) ∧
        (P outputFormat ∧ P quiet ∧ P verbose) ∧ P logLevel := by
  constructor
  · intro all
    exact ⟨⟨all _, all _, all _⟩, ⟨all _, all _, all _⟩, ⟨all _, all _, all _⟩, all _⟩
  · rintro ⟨⟨_, _, _⟩, ⟨_, _, _⟩, ⟨_, _, _⟩, _⟩ setting
    cases setting <;> assumption

end Setting

/-! Values in data. -/

def sectionNames : List String := sectionKeys.map (·.1)

/-- The entries of a section, none if it is absent or no mapping. -/
def sectionIn (entries : Value.Entries) (name : String) : Value.Entries :=
  match (entries.findText? name).map Value.bare with
  | some (.map inner) => inner
  | _ => []

/-- The value that data holds for a setting. -/
def valueIn (entries : Value.Entries) (setting : Setting) : Option Value :=
  match setting.sectionName? with
  | some name => (sectionIn entries name).findText? setting.key
  | none => entries.findText? setting.key

/-- A section that is present is a mapping. -/
def IsSection (entries : Value.Entries) (name : String) : Prop :=
  ∀ v, entries.findText? name = some v → ∃ inner, v.bare = .map inner

theorem sectionIn_eq {entries : Value.Entries} {name : String} {v : Value} {inner : Value.Entries}
    (found : entries.findText? name = some v) (isMap : v.bare = .map inner) :
    sectionIn entries name = inner := by
  rw [sectionIn, found, Option.map_some, isMap]

theorem sectionIn_eq_nil {entries : Value.Entries} {name : String}
    (noSection : ¬ IsSection entries name) : sectionIn entries name = [] := by
  rw [sectionIn]
  split
  · rename_i inner found
    obtain ⟨v, isFound, isMap⟩ := Option.map_eq_some_iff.mp found
    refine absurd (fun w isOther => ?_) noSection
    cases isFound.symm.trans isOther
    exact ⟨inner, isMap⟩
  · rfl

private theorem section_eq_valid {α : Type} {entries : Value.Entries} {name kind : String}
    {fields : Value.Entries → Checked α} {fallback a : α} (empty : fields [] = .valid fallback) :
    optional entries [name] fallback (record kind fields) = .valid a ↔
      IsSection entries name ∧ fields (sectionIn entries name) = .valid a := by
  rw [optional_eq_valid, IsSection, sectionIn]
  cases entries.findText? name with
  | none => simp [empty]
  | some v =>
      simp only [Option.elim_some, Option.map_some, Option.some.injEq, forall_eq', record]
      cases v.bare <;> simp [flawed]

private theorem scanFields_eq_valid {entries : Value.Entries} {scan : ScanSettings} :
    scanFields entries = .valid scan ↔
      Setting.concurrency.outcome (entries.findText? "concurrency") = .valid scan.concurrency ∧
      Setting.exclude.outcome (entries.findText? "exclude") = .valid scan.exclude ∧
      Setting.ignoredRules.outcome (entries.findText? "ignored_rules") =
        .valid scan.ignoredRules := by
  simp only [scanFields, map_eq_valid, and_eq_valid, optional_eq_valid]
  constructor
  · rintro ⟨_, passed, rfl⟩
    exact passed
  · intro passed
    exact ⟨(scan.concurrency, scan.exclude, scan.ignoredRules), passed, rfl⟩

private theorem cacheFields_eq_valid {entries : Value.Entries} {cache : CacheSettings} :
    cacheFields entries = .valid cache ↔
      Setting.cacheEnabled.outcome (entries.findText? "enabled") = .valid cache.enabled ∧
      Setting.cacheFileName.outcome (entries.findText? "file_name") = .valid cache.fileName ∧
      Setting.cacheMaxAgeDays.outcome (entries.findText? "max_age_days") =
        .valid cache.maxAgeDays := by
  simp only [cacheFields, map_eq_valid, and_eq_valid, optional_eq_valid]
  constructor
  · rintro ⟨_, passed, rfl⟩
    exact passed
  · intro passed
    exact ⟨(cache.enabled, cache.fileName, cache.maxAgeDays), passed, rfl⟩

private theorem outputFields_eq_valid {entries : Value.Entries} {output : OutputSettings} :
    outputFields entries = .valid output ↔
      Setting.outputFormat.outcome (entries.findText? "format") = .valid output.format ∧
      Setting.quiet.outcome (entries.findText? "quiet") = .valid output.quiet ∧
      Setting.verbose.outcome (entries.findText? "verbose") = .valid output.verbose := by
  simp only [outputFields, map_eq_valid, and_eq_valid, optional_eq_valid]
  constructor
  · rintro ⟨_, passed, rfl⟩
    exact passed
  · intro passed
    exact ⟨(output.format, output.quiet, output.verbose), passed, rfl⟩

/-- Data is valid exactly if its sections are mappings and each setting passes its check. -/
theorem fields_eq_valid {entries : Value.Entries} {settings : Settings} :
    fields entries = .valid settings ↔
      (∀ name ∈ sectionNames, IsSection entries name) ∧
        ∀ setting : Setting,
          setting.outcome (valueIn entries setting) = .valid (setting.of settings) := by
  have sections : (∀ name ∈ sectionNames, IsSection entries name) ↔
      IsSection entries "scan" ∧ IsSection entries "cache" ∧ IsSection entries "output" := by
    simp [sectionNames, sectionKeys]
  have scan : scanFields [] = .valid {} := rfl
  have cache : cacheFields [] = .valid {} := rfl
  have output : outputFields [] = .valid {} := rfl
  rw [sections, Setting.forall_iff]
  simp only [fields, map_eq_valid, and_eq_valid, section_eq_valid scan, section_eq_valid cache,
    section_eq_valid output, optional_eq_valid, scanFields_eq_valid, cacheFields_eq_valid,
    outputFields_eq_valid]
  constructor
  · rintro ⟨_, ⟨⟨isScan, inScan⟩, ⟨isCache, inCache⟩, ⟨isOutput, inOutput⟩, level⟩, rfl⟩
    exact ⟨⟨isScan, isCache, isOutput⟩, inScan, inCache, inOutput, level⟩
  · rintro ⟨⟨isScan, isCache, isOutput⟩, inScan, inCache, inOutput, level⟩
    exact ⟨(settings.scan, settings.cache, settings.output, settings.logLevel),
      ⟨⟨isScan, inScan⟩, ⟨isCache, inCache⟩, ⟨isOutput, inOutput⟩, level⟩, rfl⟩

theorem exists_fields_eq_valid {entries : Value.Entries} :
    (∃ settings, fields entries = .valid settings) ↔
      (∀ name ∈ sectionNames, IsSection entries name) ∧
        ∀ setting : Setting, ∃ a, setting.outcome (valueIn entries setting) = .valid a := by
  constructor
  · rintro ⟨settings, valid⟩
    obtain ⟨sections, passed⟩ := fields_eq_valid.mp valid
    exact ⟨sections, fun setting => ⟨_, passed setting⟩⟩
  · rintro ⟨sections, passed⟩
    refine ⟨Setting.gather fun setting => (passed setting).choose, ?_⟩
    rw [fields_eq_valid]
    refine ⟨sections, fun setting => ?_⟩
    rw [Setting.of_gather]
    exact (passed setting).choose_spec

/-! Written settings. -/

@[simp] theorem valueIn_entries (settings : Settings) (setting : Setting) :
    valueIn settings.entries setting = some (setting.write (setting.of settings)) := by
  cases setting <;> rfl

@[simp] theorem convertText_text (s : String) : convertText (.text s) = .valid s := rfl

@[simp] theorem convertItems_texts (texts : List String) :
    convertItems (texts.map .text) = .valid texts := by
  induction texts with
  | nil => rfl
  | cons text texts ih =>
      rw [List.map_cons, convertItems, convertText_text, Checked.bind, ih]
      rfl

private theorem head?_dropWhile {test : Char → Bool} {c : Char} (text : List Char)
    (isHead : (text.dropWhile test).head? = some c) : test c = false := by
  have kept := List.head?_dropWhile_not test text
  rwa [isHead] at kept

@[simp] theorem trim_trim (text : List Char) : Text.trim (Text.trim text) = Text.trim text := by
  unfold Text.trim Text.trimWhere Text.dropRightWhile
  generalize trimmed : ((text.dropWhile Text.isSpace).reverse.dropWhile Text.isSpace).reverse
    = short
  have back : short.reverse = (text.dropWhile Text.isSpace).reverse.dropWhile Text.isSpace := by
    rw [← trimmed, List.reverse_reverse]
  have begins : short <+: text.dropWhile Text.isSpace := by
    rw [← List.reverse_suffix, back]
    exact List.dropWhile_suffix _
  have front : short.dropWhile Text.isSpace = short := by
    refine Text.dropWhile_eq_self fun c isHead => ?_
    obtain ⟨rest, whole⟩ := begins
    refine head?_dropWhile text ?_
    rw [← whole, List.head?_append, isHead]
    rfl
  rw [front, Text.dropWhile_eq_self, List.reverse_reverse]
  intro c isHead
  rw [back] at isHead
  exact head?_dropWhile _ isHead

theorem checkFileName_text {v : Value} {name : String} (passed : checkFileName v = .valid name) :
    checkFileName (.text name) = .valid name := by
  have plain : ∀ text : List Char, isPlainName text = true → Text.trim text = text →
      checkFileName (.text (String.ofList text)) = .valid (String.ofList text) := by
    intro text isPlain trimmed
    rw [checkFileName, convertText_text, Checked.bind]
    · simp only [String.toList_ofList, trimmed, isPlain, if_true]
    · exact Value.noConfusion
  unfold checkFileName at passed
  split at passed
  · cases passed
    exact plain defaultCacheFile.toList (by decide +kernel) (by decide +kernel)
  · obtain ⟨text, _, isName⟩ := bind_eq_valid.mp passed
    simp only at isName
    split at isName
    · rename_i isPlain
      cases isName
      exact plain _ isPlain (trim_trim _)
    · cases isName

private theorem checkChoice_text {α : Type} {label : String} {names : List String}
    {ofName? : String → Option α} (fallback : α) {choice : α} {name : String}
    (known : ofName? (Text.lower name) = some choice) :
    checkChoice label names ofName? fallback (.text name) = .valid choice := by
  unfold checkChoice
  simp only [convertText_text, Checked.bind, known]

/-- What a check gives passes again when it is written. -/
theorem check_write {setting : Setting} {v : Value} {a : setting.Kind}
    (passed : setting.check v = .valid a) : setting.check (setting.write a) = .valid a := by
  cases setting with
  | concurrency =>
      have atLeastOne : max 1 a = a := by
        simp only [Setting.check, checkConcurrency] at passed
        split at passed
        · cases passed
          rfl
        · obtain ⟨n, _, rfl⟩ := map_eq_valid.mp passed
          have twice : max 1 (max 1 n) = max 1 n := by omega
          exact twice
      exact congrArg Checked.valid atLeastOne
  | exclude => exact convertItems_texts a
  | ignoredRules => exact convertItems_texts a
  | cacheEnabled => rfl
  | cacheFileName => exact checkFileName_text passed
  | cacheMaxAgeDays =>
      obtain ⟨n, _, isInteger⟩ := bind_eq_valid.mp passed
      split at isInteger
      · cases isInteger
      · rename_i notBelow
        cases isInteger
        exact if_neg notBelow
  | outputFormat => exact checkChoice_text OutputFormat.table (by cases a <;> decide +kernel)
  | quiet => rfl
  | verbose => rfl
  | logLevel => exact checkChoice_text LogLevel.warning (by cases a <;> decide +kernel)

@[simp] theorem check_write_fallback (setting : Setting) :
    setting.check (setting.write setting.fallback) = .valid setting.fallback := by
  cases setting with
  | cacheFileName => exact check_write (v := .null) rfl
  | outputFormat => exact check_write (v := .null) rfl
  | logLevel => exact check_write (v := .null) rfl
  | _ => rfl

theorem check_write_of_valid {entries : Value.Entries} {settings : Settings}
    (valid : fields entries = .valid settings) (setting : Setting) :
    setting.check (setting.write (setting.of settings)) = .valid (setting.of settings) := by
  have passed := (fields_eq_valid.mp valid).2 setting
  cases found : valueIn entries setting with
  | none =>
      rw [found] at passed
      have same : setting.fallback = setting.of settings := Checked.valid.inj passed
      rw [← same]
      exact check_write_fallback setting
  | some v =>
      rw [found] at passed
      exact check_write passed

end Settings

end MobileAudit
