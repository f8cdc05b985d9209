import MobileAudit.Settings.Basic

namespace MobileAudit.Settings

/-! Layers of settings.  A later layer is merged over an earlier one, section by section, and every
name that it sets is recorded. -/

inductive Source where
  | default
  | configFile
  | environment
  | commandLine
deriving DecidableEq

def Source.name : Source → String
  | default => "default"
  | configFile => "config_file"
  | environment => "environment"
  | commandLine => "cli"

abbrev Sources := List (String × Source)

namespace Sources

def put (sources : Sources) (name : String) (source : Source) : Sources :=
  match sources with
  | [] => [(name, source)]
  | (n, s) :: rest =>
      if n == name then (n, source) :: rest else (n, s) :: put rest name source

def of (sources : Sources) (name : String) : Source :=
  (sources.lookup name).getD .default

end Sources

mutual

/-- Merges a value over another one: mappings entry by entry, anything else by replacement. -/
def mergeOver (base : Value) : Value → Value
  | .map update =>
      match base with
      | .map entries => .map (mergeEntries entries update)
      | _ => .map update
  | .loop label v =>
      match base with
      | .map _ => mergeOver base v
      | _ => .loop label v
  | other => other

def mergeEntries (base : Value.Entries) : List (Value × Value) → Value.Entries
  | [] => base
  | (k, v) :: rest =>
      mergeEntries (base.put k (mergeOver ((base.find? k).getD .null) v)) rest

end

/-- Settings under construction: the data merged so far and where names were set. -/
structure Draft where
  entries : Value.Entries
  sources : Sources

/-- The name of a setting, if its key has a text. -/
def settingName (above : String) (key : Value) : Except Check.Breakdown String :=
  match key.plain? with
  | some name => .ok (above ++ name)
  | none => .error .unwritten

mutual

/-- Merges one entry of a layer, where `whole` is its value with its label.  `null` leaves the
earlier layers alone. -/
def applyEntry (source : Source) (above : String) (draft : Draft) (key whole : Value) :
    Value → Except Check.Breakdown Draft
  | .null => .ok draft
  | .loop _ v => applyEntry source above draft key whole v
  | .map inner => do
      let name ← settingName above key
      match (draft.entries.find? key).map Value.bare with
      | some (.map old) =>
          let merged ← applyEntries source (name ++ ".") ⟨old, draft.sources⟩ inner
          return ⟨draft.entries.put key (.map merged.entries), merged.sources⟩
      | _ => return ⟨draft.entries.put key whole, draft.sources.put name source⟩
  | _ => do
      let name ← settingName above key
      return ⟨draft.entries.put key whole, draft.sources.put name source⟩

/-- Merges the entries of a layer, where `above` is the name of the section with its point. -/
def applyEntries (source : Source) (above : String) (draft : Draft) :
    List (Value × Value) → Except Check.Breakdown Draft
  | [] => .ok draft
  | (key, v) :: rest => do
      applyEntries source above (← applyEntry source above draft key v v) rest

end

def Draft.apply (draft : Draft) (source : Source) (layer : Value.Entries) :
    Except Check.Breakdown Draft :=
  applyEntries source "" draft layer

/-- Sets a value under a section, which is made if it is missing. -/
def putInSection (entries : Value.Entries) (sectionName key : String) (v : Value) :
    Value.Entries :=
  match entries.findText? sectionName with
  | some (.map inner) =>
      entries.put (.text sectionName) (.map (Value.Entries.put (.text key) v inner))
  | _ => entries.put (.text sectionName) (.map [(.text key, v)])

end MobileAudit.Settings
