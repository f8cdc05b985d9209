import MobileAudit.Settings.Layer

namespace MobileAudit.Settings

/-! Settings from variables of the environment.  Some variables override single settings as a layer
of their own; others, named by section and key, take the place of built-in defaults whenever
settings are checked. -/

abbrev Environment := List (String × String)

/-! Overrides of single settings. -/

def switchWords : List String := ["true", "1", "yes", "on", "enabled"]

def parseSwitch (raw : String) : Value :=
  .bool (switchWords.contains (Text.lower (Text.trimText raw)))

/-- A number; a text that is none, or too long a one, gives nothing. -/
def parseCount (raw : String) : Value :=
  match Number.convert? raw.toList with
  | some n => .int n
  | none => .null

def parseItems (raw : String) : Value :=
  .list ((Text.commaItems raw).map .text)

def parseWord (raw : String) : Value :=
  .text (Text.lower (Text.trimText raw))

structure Variable where
  name : String
  sectionName : Option String
  key : String
  parse : String → Value
  help : String

def configPathVariable : String := "MOBSENTRY_CONFIG_PATH"

def settingVariables : List Variable :=
  [⟨"MOBSENTRY_CONCURRENCY", some "scan", "concurrency", parseCount, "Files processed at once"⟩,
    ⟨"MOBSENTRY_EXCLUDE", some "scan", "exclude", parseItems, "Comma-separated exclusion globs"⟩,
    ⟨"MOBSENTRY_IGNORED_RULES", some "scan", "ignored_rules", parseItems,
      "Comma-separated rule ids to skip"⟩,
    ⟨"MOBSENTRY_CACHE", some "cache", "enabled", parseSwitch, "Use the incremental cache"⟩,
    ⟨"MOBSENTRY_OUTPUT_FORMAT", some "output", "format", parseWord, "table or json"⟩,
    ⟨"MOBSENTRY_QUIET", some "output", "quiet", parseSwitch, "Only print findings and errors"⟩,
    ⟨"MOBSENTRY_VERBOSE", some "output", "verbose", parseSwitch, "Print diagnostics"⟩,
    ⟨"MOBSENTRY_LOG_LEVEL", none, "log_level", parseWord, "debug, info, warning or error"⟩]

def variableHelp : List (String × String) :=
  (configPathVariable, "Path to a configuration file") :: settingVariables.map fun v =>
    (v.name, v.help)

def overrideWith (environment : Environment) (entries : Value.Entries) (source : Variable) :
    Value.Entries :=
  match environment.lookup source.name with
  | none => entries
  | some raw =>
      match source.parse raw with
      | .null => entries
      | v =>
          match source.sectionName with
          | some name => putInSection entries name source.key v
          | none => entries.put (.text source.key) v

/-- The layer of the variables that are set and make sense. -/
def overrides (environment : Environment) : Value.Entries :=
  settingVariables.foldl (overrideWith environment) []

/-! Defaults by section and key. -/

def sectionKeys : List (String × List String) :=
  [("scan", ["concurrency", "exclude", "ignored_rules"]),
    ("cache", ["enabled", "file_name", "max_age_days"]),
    ("output", ["format", "quiet", "verbose"])]

/-- Keys of the scan section whose values are written as documents. -/
def listKeys : List String := ["exclude", "ignored_rules"]

def splitNested : List Char → List (List Char)
  | [] => [[]]
  | '_' :: '_' :: rest => [] :: splitNested rest
  | c :: rest =>
      match splitNested rest with
      | piece :: more => (c :: piece) :: more
      | [] => [[c]]

/-- Sets a value at the end of a way of keys; what is no mapping on the way is left alone. -/
def putAlong (entries : Value.Entries) : List String → String → Value → Value.Entries
  | [], last, v => entries.put (.text last) v
  | key :: rest, last, v =>
      match entries.findText? key with
      | some (.map inner) => entries.put (.text key) (.map (putAlong inner rest last v))
      | some _ => entries
      | none => entries.put (.text key) (.map (putAlong [] rest last v))

/-- Why a document in a variable cannot be read.  A malformed one is an error of its section; with
one that is nested too deep the whole check breaks down. -/
inductive Unreadable where
  | malformed (sectionName : String)
  | tooDeep (container : Json.Container)
deriving DecidableEq

def readDocument (sectionName raw : String) : Except Unreadable Value :=
  match Json.read raw with
  | .ok v => .ok v
  | .error ⟨.tooDeep container, _⟩ => .error (.tooDeep container)
  | .error _ => .error (.malformed sectionName)

/-- The value of a nested variable; list keys hold documents. -/
def nestedValue (sectionName : String) (path : List String) (raw : String) :
    Except Unreadable Value :=
  match path with
  | [key] =>
      if sectionName == "scan" && listKeys.contains key && !raw.isEmpty then
        readDocument sectionName raw
      else .ok (.text raw)
  | _ => .ok (.text raw)

/-- The entries that nested variables of a section set. -/
def nestedEntries (sectionName : String) :
    Environment → Value.Entries → Except Unreadable Value.Entries
  | [], entries => .ok entries
  | (name, raw) :: rest, entries =>
      let lead := "mobsentry_".toList ++ sectionName.toList ++ ['_', '_']
      let name := name.toList
      if lead.isPrefixOf name then
        let path := (splitNested (name.drop lead.length)).map String.ofList
        match nestedValue sectionName path raw with
        | .ok v =>
            nestedEntries sectionName rest (putAlong entries path.dropLast (path.getLastD "") v)
        | .error unreadable => .error unreadable
      else nestedEntries sectionName rest entries

/-- Keys of a section are found in any case. -/
def settleKeys (keys : List String) (entries : Value.Entries) : Value.Entries :=
  entries.foldl (fun settled (k, v) =>
    match k with
    | .text name =>
        match keys.find? (· == Text.lower name) with
        | some key => settled.put (.text key) v
        | none => settled.put k v
    | _ => settled.put k v) []

/-- The default of a section.  The variables nested in it count where the variable of the section
itself is missing or holds a mapping. -/
def sectionDefault (environment : Environment) (sectionName : String) (keys : List String) :
    Except Unreadable (Option Value) :=
  let nested := nestedEntries sectionName environment []
  match environment.lookup ("mobsentry_" ++ sectionName) with
  | none =>
      match nested with
      | .error unreadable => .error unreadable
      | .ok [] => .ok none
      | .ok entries => .ok (some (.map (settleKeys keys entries)))
  | some raw =>
      match readDocument sectionName raw with
      | .error unreadable => .error unreadable
      | .ok .null => .ok none
      | .ok (.map entries) =>
          match nested with
          | .error unreadable => .error unreadable
          | .ok more => .ok (some (.map (settleKeys keys (mergeEntries entries more))))
      | .ok v => .ok (some v)

/-- Sets a variable: one that is set keeps its place. -/
def putVariable (name raw : String) : Environment → Environment
  | [] => [(name, raw)]
  | (n, r) :: rest =>
      if n == name then (n, raw) :: rest else (n, r) :: putVariable name raw rest

/-- The variables under names in lower case, of which the last one counts. -/
def foldNames (environment : Environment) : Environment :=
  environment.foldl (fun folded (name, raw) => putVariable (Text.lower name) raw folded) []

/-- The defaults that the environment gives.  Names of variables are compared without regard to
case. -/
def environmentDefaults (environment : Environment) : Except Unreadable Value.Entries := do
  let folded := foldNames environment
  let sections : Value.Entries ← sectionKeys.foldlM (fun entries (name, keys) => do
    match ← sectionDefault folded name keys with
    | some v => return Value.Entries.put (.text name) v entries
    | none => return entries) []
  match folded.lookup "mobsentry_log_level" with
  | some raw => return sections.put (.text "log_level") (.text raw)
  | none => return sections

def settingNames : List String := ["scan", "cache", "output", "log_level"]

def textKeys : Value.Entries → Bool
  | [] => true
  | (.text _, _) :: rest => textKeys rest
  | _ => false

/-- Whether a key names a setting, in any case. -/
def namesSetting (name : String) : Value → Bool
  | .text key => Text.lower key == name
  | _ => false

/-- The entries that name settings; of several keys for one setting the first counts. -/
def settingEntries (data : Value.Entries) : Value.Entries :=
  settingNames.filterMap fun name =>
    (List.find? (fun (key, _) => namesSetting name key) data).map fun (_, v) => (.text name, v)

/-- The key under which the sources of settings themselves would stand. -/
def sourcesKey : String := "_build_sources"

/-- Settings from given sources: a pair whose first part is empty stands for no sources at all, and
nothing else that a document can hold is a pair of sources. -/
def fromSources (v : Value) : Check.Checked Settings :=
  match Check.itemsOf? v with
  | none => .broken (.notPair (Check.qualifiedKind v))
  | some [sources, _] =>
      if !sources.truthy then .valid {}
      else match Check.itemsOf? sources with
        | some (source :: _) => .broken (.notCallable (Check.qualifiedKind source))
        | _ => .broken (.notIterable (Check.qualifiedKind sources))
  | some items =>
      .flawed (.rejected (if items.length < 2 then
        "not enough values to unpack (expected 2, got " ++ toString items.length ++ ")"
        else "too many values to unpack (expected 2)"))

/-- Checks data as settings; it is merged over the defaults of the environment. -/
def check (environment : Environment) : Value → Check.Checked Settings
  | .map data =>
      if !textKeys data then .broken .keyNotText
      else match (Value.Entries.findText? data sourcesKey).filter (fun v => !v.isNull) with
        | some v => fromSources v
        | none =>
            match environmentDefaults environment with
            | .error (.malformed name) =>
                .flawed (.rejected ("error parsing value for field \"" ++ name ++
                  "\" from source \"EnvSettingsSource\""))
            | .error (.tooDeep container) => .broken (.tooDeep container)
            | .ok defaults => fields (mergeEntries defaults (settingEntries data))
  | _ => .flawed (.notRecord "MobsentryConfig")

end MobileAudit.Settings
