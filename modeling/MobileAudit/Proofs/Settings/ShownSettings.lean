import MobileAudit.Command.Config
import MobileAudit.Proofs.Settings.Isolation
import MobileAudit.Proofs.Settings.PlainFile

namespace MobileAudit.Settings

open Check Disk

/-! Settings that are shown as JSON and loaded again.  Every check takes back what it gave, so the
settings of a file with shown settings are those that were shown, and the file is the source of them
all. -/

/-! Shown settings. -/

/-- The text of settings that are shown as JSON. -/
def shownText (settings : Settings) : String :=
  Json.write .settings settings.toValue ++ "\n"

/-- This is what the command prints for settings that it shows as JSON. -/
theorem out_showSettings {setup : Command.Setup} {request : Command.ShowRequest}
    {shown : Resolved} (isJson : Text.lower request.format = "json")
    (resolves : resolve setup.origin { configPath := request.configFile, start := request.start } =
      .ok shown) :
    (Command.showSettings setup request).out = (shownText shown.settings).toList := by
  unfold Command.showSettings
  simp [isJson, resolves, shownText]

theorem document_toValue (settings : Settings) :
    Json.Document Json.maxDepth settings.toValue := by
  have texts : ∀ {depth : Nat} (items : List String),
      Json.Document (depth + 1) (.list (items.map .text)) := by
    intro depth items
    refine .list _ fun v member => ?_
    obtain ⟨text, _, rfl⟩ := List.mem_map.mp member
    exact .text text
  refine .map [("scan", _), ("cache", _), ("output", _), ("log_level", _)] (by simp) ?_
  simp only [List.forall_mem_cons]
  refine ⟨.map [("concurrency", _), ("exclude", _), ("ignored_rules", _)] (by simp) ?_,
    .map [("enabled", _), ("file_name", _), ("max_age_days", _)] (by simp) ?_,
    .map [("format", _), ("quiet", _), ("verbose", _)] (by simp) ?_, .text _,
    List.forall_mem_nil _⟩
  all_goals simp only [List.forall_mem_cons]
  · exact ⟨.int _, texts _, texts _, List.forall_mem_nil _⟩
  · exact ⟨.bool _, .text _, .int _, List.forall_mem_nil _⟩
  · exact ⟨.text _, .bool _, .bool _, List.forall_mem_nil _⟩

private theorem holdsText_shown {fs : FileSystem} {path : Path} {settings : Settings}
    (present : fs.look path = .ok (some (.file (Text.encode (shownText settings))))) :
    HoldsText fs path (shownText settings) := by
  have noReturn : '\r' ∉ (shownText settings).toList := by
    rw [shownText, Json.write, String.toList_append, String.toList_ofList, List.mem_append, not_or]
    exact ⟨Json.return_not_mem_writeValue .settings (document_toValue settings) 0, by decide⟩
  exact ⟨_, present, Text.decodeFile?_encode _ noReturn⟩

private theorem isWritable_toValue {settings : Settings}
    (concurrency : Number.fitsDecimal settings.scan.concurrency = true)
    (maxAgeDays : Number.fitsDecimal settings.cache.maxAgeDays = true) :
    settings.toValue.isWritable = true := by
  have texts : ∀ items : List String, Value.allWritable (items.map .text) = true := by
    intro items
    rw [Value.allWritable_eq, List.all_map]
    exact List.all_eq_true.mpr fun _ _ => rfl
  simp [toValue, entries, Value.isWritable, Value.entriesWritable, texts, concurrency, maxAgeDays]

private theorem fileEntries_shown {fs : FileSystem} {path : Path} {settings : Settings}
    (writable : settings.toValue.isWritable = true)
    (announced : Format.ofSuffix? (Text.lower path.suffix) = some .json)
    (holds : HoldsText fs path (shownText settings)) :
    fileEntries fs path = .ok settings.entries := by
  have isRead : Json.read (shownText settings) = .ok settings.toValue := by
    have newline : "\n".toList = ['\n'] := rfl
    rw [Json.read, shownText, Json.write, String.toList_append, String.toList_ofList, newline]
    have blank : ∀ b ∈ ['\n'], Json.isBlank b = true := List.forall_mem_singleton.mpr rfl
    exact (Json.readChars_written .settings (document_toValue settings) blank).1 writable
  rw [fileEntries_announced announced holds, decodeAs_eq_ok]
  refine ⟨settings.toValue, ?_, rfl⟩
  rw [Format.read, isRead]

/-! Checked settings. -/

/-- What checks have made of data passes them again when it is written. -/
theorem check_write_of_check {environment : Environment} {data : Value} {settings : Settings}
    (accepted : check environment data = .valid settings) (setting : Setting) :
    setting.check (setting.write (setting.of settings)) = .valid (setting.of settings) := by
  obtain rfl | ⟨_, valid⟩ := default_or_fields_of_check accepted
  · exact check_write_fallback setting
  · exact check_write_of_valid valid setting

/-! Resolutions. -/

private theorem sets_entries (settings : Settings) : Sets settings.entries where
  separate := separate_entries settings
  texts := fun entry member _ => (textKeys_iff _).mp rfl entry member
  sections := fun name isName v found =>
    .inr ((hasSections_entries settings).isSection isName v found)
  undotted := by
    intro setting inSection v member
    cases setting with
    | logLevel => exact absurd rfl inSection
    | _ => simp [entries, Setting.name, Setting.sectionName?, Setting.key] at member
  keeps := keepsSources_entries settings

private theorem decidedBy_entries (settings : Settings) (source : Source)
    (decision : Setting → Source × Value) :
    decidedBy source (valueIn settings.entries) decision = fun setting =>
      (source, setting.write (setting.of settings)) := by
  funext setting
  rw [decidedBy, valueIn_entries, given?_write]
  rfl

private theorem decided_shown (standard settings : Settings) :
    Decided (gathered standard settings.entries []) fun setting =>
      (.configFile, setting.write (setting.of settings)) := by
  have decided := (decided_entries standard).overlaid (sets_entries settings)
    (fun setting _ _ => .inr (bare_write setting _)) .configFile
  rwa [decidedBy_entries] at decided

/-- Settings that were accepted are loaded from a file with the text that shows them exactly if the
environment has standard settings, though it is left aside.  What is loaded is what was shown, and
the file is the source of every setting. -/
theorem shown_settings_loaded_iff {origin : Origin} {path : String} {settings : Settings}
    (accepted : ∃ environment data, check environment data = .valid settings)
    (concurrency : Number.fitsDecimal settings.scan.concurrency = true)
    (maxAgeDays : Number.fitsDecimal settings.cache.maxAgeDays = true)
    (announced : Format.ofSuffix? (Text.lower (Path.ofText path).suffix) = some .json)
    (holds : HoldsText origin.fs (.ofText path) (shownText settings)) :
    (∀ (setup : Command.Setup) (request : Command.ShowRequest) (shown : Resolved),
      Text.lower request.format = "json" →
      resolve setup.origin { configPath := request.configFile, start := request.start } =
        .ok shown → shown.settings = settings →
      (Command.showSettings setup request).out = (shownText settings).toList) ∧
    ((∃ resolved, resolve origin (.ofFile path) = .ok resolved) ↔
      ∃ standard, check origin.environment (.map []) = .valid standard) ∧
    ∀ resolved, resolve origin (.ofFile path) = .ok resolved →
      resolved.settings = settings ∧
        ∀ setting : Setting, resolved.sources.of setting.name = .configFile := by
  obtain ⟨environment, data, accepted⟩ := accepted
  have read : fileLayer origin (some (.ofText path)) = .ok settings.entries :=
    fileEntries_shown (isWritable_toValue concurrency maxAgeDays) announced holds
  have resolves : ∀ standard, check origin.environment (.map []) = .valid standard →
      resolve origin (.ofFile path) =
        .ok ⟨settings, some (.ofText path), (gathered standard settings.entries []).sources⟩ := by
    intro standard isStandard
    obtain ⟨defaults, isDefault, valid⟩ := check_nil_eq_valid.mp isStandard
    have decided := decided_shown standard settings
    have passes : check origin.environment (.map (gathered standard settings.entries []).entries) =
        .valid settings :=
      (decided.check_eq_valid isDefault valid rfl fun setting => unmapped_write setting _).mpr
        fun setting => check_write_of_check accepted setting
    rw [resolve_eq_gathered rfl isStandard rfl read rfl rfl rfl, checked_eq_ok.mpr passes]
    rfl
  refine ⟨?_, ⟨?_, ?_⟩, ?_⟩
  · rintro setup request shown isJson shows rfl
    exact out_showSettings isJson shows
  · rintro ⟨resolved, success⟩
    obtain ⟨standard, _, _, resolution⟩ := resolve_eq_ok.mp success
    exact ⟨standard, resolution.isDefault⟩
  · rintro ⟨standard, isStandard⟩
    exact ⟨_, resolves standard isStandard⟩
  · intro resolved success
    obtain ⟨standard, _, _, resolution⟩ := resolve_eq_ok.mp success
    cases (resolves standard resolution.isDefault).symm.trans success
    exact ⟨rfl, (decided_shown standard settings).source⟩

/-- Settings far from the standard ones come back from their text.  They do not where a variable
names no log level, though it is left aside and the settings are accepted beside it. -/
theorem shown_settings_beside_variable :
    let settings : Settings :=
      { scan := { concurrency := 3, exclude := ["*.min.js", ""] }
        cache := { enabled := false, maxAgeDays := 0 }
        output := { format := .json }
        logLevel := .critical }
    let fs : FileSystem :=
      { disk := .folder [("c.json", .file (Text.encode (shownText settings)))] }
    let environment : Environment := [("MOBSENTRY_LOG_LEVEL", "verbose")]
    (∃ resolved, resolve { fs } (.ofFile "/c.json") = .ok resolved ∧
      resolved.settings = settings ∧
      ∀ setting : Setting, resolved.sources.of setting.name = .configFile) ∧
    check environment settings.toValue = .valid settings ∧
      ¬ ∃ resolved, resolve { fs, environment } (.ofFile "/c.json") = .ok resolved := by
  intro settings fs environment
  have accepted : check environment settings.toValue = .valid settings := by
    unfold settings
    exact (check_eq_valid (keepsSources_entries _)).mpr
      ⟨rfl, [(.text "log_level", .text "verbose")], rfl, rfl⟩
  have holds : HoldsText fs (.ofText "/c.json") (shownText settings) := holdsText_shown rfl
  have announced : Format.ofSuffix? (Text.lower (Path.ofText "/c.json").suffix) = some .json := by
    decide +kernel
  have concurrency : Number.fitsDecimal settings.scan.concurrency = true := by decide +kernel
  have maxAgeDays : Number.fitsDecimal settings.cache.maxAgeDays = true := by decide +kernel
  have loaded : ∀ found : Environment,
      ((∃ resolved, resolve ⟨fs, found, []⟩ (.ofFile "/c.json") = .ok resolved) ↔
        ∃ standard, check found (.map []) = .valid standard) ∧
      ∀ resolved, resolve ⟨fs, found, []⟩ (.ofFile "/c.json") = .ok resolved →
        resolved.settings = settings ∧
          ∀ setting : Setting, resolved.sources.of setting.name = .configFile := fun _ =>
    (shown_settings_loaded_iff ⟨environment, settings.toValue, accepted⟩ concurrency maxAgeDays
      announced holds).2
  obtain ⟨resolved, success⟩ := (loaded []).1.mpr ⟨{}, rfl⟩
  refine ⟨⟨resolved, success, (loaded []).2 resolved success⟩, accepted, ?_⟩
  rw [(loaded environment).1]
  rintro ⟨standard, isStandard⟩
  cases isStandard

end MobileAudit.Settings
