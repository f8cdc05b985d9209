import Mathlib.Data.List.Basic
import MobileAudit.Proofs.Settings.Fields

namespace MobileAudit

/-! The check of data as a function of the outcomes of its settings.  Data whose settings have the
same outcomes has the same outcome, and where all settings but one pass, that one decides. -/

namespace Check

namespace Checked

variable {α β : Type}

theorem map_injective {f : α → β} (injective : Function.Injective f) :
    Function.Injective (map f) := by
  intro first second same
  cases first <;> cases second <;> simp only [map, valid.injEq, invalid.injEq, broken.injEq,
    reduceCtorEq] at same
  · rw [injective same]
  · rw [same]
  · rw [same]

theorem under_injective (step : String) :
    Function.Injective (under step : Checked α → Checked α) := by
  have places : Function.Injective (Problem.under step) := by
    rintro ⟨place, flaw⟩ ⟨place', flaw'⟩ same
    cases same
    rfl
  intro first second same
  cases first <;> cases second <;> simp only [under, valid.injEq, invalid.injEq, broken.injEq,
    reduceCtorEq] at same
  · rw [same]
  · rw [List.map_injective_iff.mpr places same]
  · rw [same]

end Checked

theorem optional_eq {α : Type} (entries : Value.Entries) (key : String) (fallback : α)
    (check : Value → Checked α) :
    optional entries [key] fallback check =
      ((entries.findText? key).elim (.valid fallback) check).under key := by
  rw [optional, fieldValue?, List.findSome?_cons]
  cases entries.findText? key <;> rfl

end Check

namespace Settings

open Check Checked

/-! Sections. -/

section Sections

variable {α : Type} {entries : Value.Entries} {name kind : String}
  {fields : Value.Entries → Checked α} {fallback : α}

theorem optional_section (empty : fields [] = .valid fallback)
    (isSection : IsSection entries name) :
    optional entries [name] fallback (record kind fields) =
      (fields (sectionIn entries name)).under name := by
  rw [optional_eq]
  cases found : entries.findText? name with
  | none =>
      rw [sectionIn, found, Option.elim_none, Option.map_none, empty]
  | some v =>
      obtain ⟨inner, isMap⟩ := isSection v found
      rw [sectionIn_eq found isMap, Option.elim_some, record, isMap]

private theorem optional_no_section (noSection : ¬ IsSection entries name) :
    optional entries [name] fallback (record kind fields) =
      (flawed (.notRecord kind) : Checked α).under name := by
  rw [optional_eq]
  unfold IsSection at noSection
  cases found : entries.findText? name with
  | none =>
      rw [found] at noSection
      exact absurd (fun _ missing => nomatch missing) noSection
  | some v =>
      simp only [found, Option.some.injEq, forall_eq'] at noSection
      rw [Option.elim_some, record]
      cases isMap : v.bare with
      | map inner => exact absurd ⟨inner, isMap⟩ noSection
      | _ => rfl

/-- A section is checked in the same way wherever its entries are. -/
theorem optional_section_congr {other : Value.Entries} (empty : fields [] = .valid fallback)
    (sections : IsSection entries name ↔ IsSection other name)
    (same : fields (sectionIn entries name) = fields (sectionIn other name)) :
    optional entries [name] fallback (record kind fields) =
      optional other [name] fallback (record kind fields) := by
  by_cases isSection : IsSection entries name
  · rw [optional_section empty isSection, optional_section empty (sections.mp isSection), same]
  · rw [optional_no_section isSection, optional_no_section (fun is => isSection (sections.mpr is))]

end Sections

/-! Outcomes. -/

/-- The outcome of each setting in data. -/
def outcomeIn (entries : Value.Entries) (setting : Setting) : Checked setting.Kind :=
  setting.outcome (valueIn entries setting)

section Assembled

variable (outcomes : (setting : Setting) → Checked setting.Kind)

def scanOutcome : Checked ScanSettings :=
  (((outcomes .concurrency).under "concurrency").and
    (((outcomes .exclude).under "exclude").and
    ((outcomes .ignoredRules).under "ignored_rules"))).map
    fun (concurrency, exclude, ignoredRules) => { concurrency, exclude, ignoredRules }

def cacheOutcome : Checked CacheSettings :=
  (((outcomes .cacheEnabled).under "enabled").and
    (((outcomes .cacheFileName).under "file_name").and
    ((outcomes .cacheMaxAgeDays).under "max_age_days"))).map
    fun (enabled, fileName, maxAgeDays) => { enabled, fileName, maxAgeDays }

def outputOutcome : Checked OutputSettings :=
  (((outcomes .outputFormat).under "format").and
    (((outcomes .quiet).under "quiet").and
    ((outcomes .verbose).under "verbose"))).map
    fun (format, quiet, verbose) => { format, quiet, verbose }

/-- The outcome of data whose sections are mappings. -/
def assemble : Checked Settings :=
  (((scanOutcome outcomes).under "scan").and
    (((cacheOutcome outcomes).under "cache").and
    (((outputOutcome outcomes).under "output").and
    ((outcomes .logLevel).under "log_level")))).map
    fun (scan, cache, output, logLevel) => { scan, cache, output, logLevel }

end Assembled

theorem scanFields_eq (entries : Value.Entries) :
    scanFields (sectionIn entries "scan") = scanOutcome (outcomeIn entries) := by
  simp only [scanFields, optional_eq]
  rfl

theorem cacheFields_eq (entries : Value.Entries) :
    cacheFields (sectionIn entries "cache") = cacheOutcome (outcomeIn entries) := by
  simp only [cacheFields, optional_eq]
  rfl

theorem outputFields_eq (entries : Value.Entries) :
    outputFields (sectionIn entries "output") = outputOutcome (outcomeIn entries) := by
  simp only [outputFields, optional_eq]
  rfl

theorem fields_eq_assemble {entries : Value.Entries}
    (sections : ∀ name ∈ sectionNames, IsSection entries name) :
    fields entries = assemble (outcomeIn entries) := by
  have scan : scanFields [] = .valid {} := rfl
  have cache : cacheFields [] = .valid {} := rfl
  have output : outputFields [] = .valid {} := rfl
  rw [fields, optional_section scan (sections "scan" (by decide)),
    optional_section cache (sections "cache" (by decide)),
    optional_section output (sections "output" (by decide)), optional_eq, scanFields_eq,
    cacheFields_eq, outputFields_eq]
  rfl

theorem fields_congr {first second : Value.Entries}
    (sections : ∀ name ∈ sectionNames, (IsSection first name ↔ IsSection second name))
    (outcomes : ∀ setting, outcomeIn first setting = outcomeIn second setting) :
    fields first = fields second := by
  have same : outcomeIn first = outcomeIn second := funext outcomes
  have scan : scanFields [] = .valid {} := rfl
  have cache : cacheFields [] = .valid {} := rfl
  have output : outputFields [] = .valid {} := rfl
  have level : optional first ["log_level"] .warning checkLogLevel =
      optional second ["log_level"] .warning checkLogLevel := by
    rw [optional_eq, optional_eq]
    exact congrArg (under "log_level") (outcomes .logLevel)
  rw [fields, fields, level,
    optional_section_congr scan (sections "scan" (by decide)) (by
      rw [scanFields_eq, scanFields_eq, same]),
    optional_section_congr cache (sections "cache" (by decide)) (by
      rw [cacheFields_eq, cacheFields_eq, same]),
    optional_section_congr output (sections "output" (by decide)) (by
      rw [outputFields_eq, outputFields_eq, same])]

theorem Setting.key_injective : Function.Injective Setting.key := by
  intro first second same
  cases first <;> cases second <;> first | rfl | exact absurd same (by decide)

/-- The place of a setting in problems. -/
def Setting.placed {α : Type} (setting : Setting) (outcome : Checked α) : Checked α :=
  match setting.sectionName? with
  | some above => (outcome.under setting.key).under above
  | none => outcome.under setting.key

theorem Setting.placed_injective {α : Type} (setting : Setting) :
    Function.Injective (setting.placed : Checked α → Checked α) := by
  unfold Setting.placed
  cases setting.sectionName? with
  | some above => exact (under_injective above).comp (under_injective setting.key)
  | none => exact under_injective setting.key

def Setting.put (setting : Setting) (settings : Settings) (a : setting.Kind) : Settings :=
  Setting.gather (Function.update (fun other => other.of settings) setting a)

@[simp] theorem Setting.of_put (setting : Setting) (settings : Settings) (a : setting.Kind) :
    setting.of (setting.put settings a) = a := by
  rw [put, of_gather, Function.update_self]

theorem Setting.of_put_other {setting other : Setting} (differs : other ≠ setting)
    (settings : Settings) (a : setting.Kind) :
    other.of (setting.put settings a) = other.of settings := by
  rw [put, of_gather, Function.update_of_ne differs]

theorem Setting.put_injective (setting : Setting) (settings : Settings) :
    Function.Injective (setting.put settings) := by
  intro a b same
  have isSame := congrArg setting.of same
  rwa [of_put, of_put] at isSame

theorem Setting.ext {first second : Settings}
    (same : ∀ setting : Setting, setting.of first = setting.of second) : first = second :=
  congrArg gather (funext same)

@[simp] theorem Setting.put_of (setting : Setting) (settings : Settings) :
    setting.put settings (setting.of settings) = settings := by
  refine ext fun other => ?_
  by_cases isSame : other = setting
  · subst isSame
    exact of_put other settings _
  · exact of_put_other isSame settings _

theorem Setting.put_congr {setting : Setting} {first second : Settings}
    (same : ∀ other, other ≠ setting → other.of first = other.of second) (a : setting.Kind) :
    setting.put first a = setting.put second a := by
  refine ext fun other => ?_
  by_cases isSame : other = setting
  · subst isSame
    rw [of_put, of_put]
  · rw [of_put_other isSame, of_put_other isSame, same other isSame]

/-- Where all settings but one pass, that one decides. -/
theorem assemble_eq {outcomes : (setting : Setting) → Checked setting.Kind} {settings : Settings}
    (setting : Setting)
    (others : ∀ other, other ≠ setting → outcomes other = .valid (other.of settings)) :
    assemble outcomes = (setting.placed (outcomes setting)).map (setting.put settings) := by
  generalize isOutcome : outcomes setting = outcome
  cases setting <;>
    (simp only [assemble, scanOutcome, cacheOutcome, outputOutcome, isOutcome, others, ne_eq,
      reduceCtorEq, not_false_eq_true, under_valid]
     cases outcome <;> rfl)

end Settings

end MobileAudit
