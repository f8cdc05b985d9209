import MobileAudit.Settings.File

namespace MobileAudit.Settings

/-! Settings from all layers: defaults, a file, variables of the environment and arguments of the
command line, of which later ones win. -/

open Disk

structure Origin where
  fs : FileSystem
  environment : Environment := []
  userDirectories : List Path := []

structure Query where
  configPath : Option String := none
  arguments : Value.Entries := []
  useEnvironment : Bool := true
  useFile : Bool := true
  start : Option String := none

structure Resolved where
  settings : Settings
  file : Option Path
  sources : Sources

/-- The settings that arguments of the command line set. -/
def argumentSettings : List (String × String × String) :=
  [("concurrency", "scan", "concurrency"), ("exclude", "scan", "exclude"),
    ("ignore", "scan", "ignored_rules"), ("ignored_rules", "scan", "ignored_rules"),
    ("cache", "cache", "enabled"), ("cache_file", "cache", "file_name"),
    ("format", "output", "format"), ("output_format", "output", "format"),
    ("verbose", "output", "verbose"), ("quiet", "output", "quiet")]

/-- Nothing and empty lists count as not given. -/
def isGiven : Value → Bool
  | .null => false
  | .list items => !items.isEmpty
  | .tuple items => !items.isEmpty
  | _ => true

def asList : Value → Value
  | .tuple items => .list items
  | v => v

def addArgument (layer : Value.Entries) (name : String) (v : Value) :
    Except ConfigError Value.Entries :=
  if !isGiven v then .ok layer
  else if name == "no_cache" then
    .ok (if v.truthy then putInSection layer "cache" "enabled" (.bool false) else layer)
  else
    match argumentSettings.lookup name with
    | some (sectionName, key) => .ok (putInSection layer sectionName key (asList v))
    | none => .error (.unknownArgument name)

def argumentLayer (arguments : Value.Entries) : Except ConfigError Value.Entries :=
  arguments.foldlM (fun layer (name, v) => addArgument layer name.plain v) []

def checked (environment : Environment) (data : Value.Entries) : Except Obstacle Settings :=
  match check environment (.map data) with
  | .valid settings => .ok settings
  | .invalid problems => .error (.config (.invalid problems))
  | .broken cause => .error (.breakdown cause)

/-- The path of a settings file that the environment names, if it exists. -/
def pathOfEnvironment (fs : FileSystem) (environment : Environment) :
    Except DiskError (Option Path) :=
  match environment.lookup configPathVariable with
  | none => .ok none
  | some text =>
      if text.isEmpty then .ok none
      else (fs.holds (.ofText text)).map fun found => if found then some (.ofText text) else none

def orDisk {α : Type} : Except DiskError α → Except Obstacle α
  | .ok a => .ok a
  | .error e => .error (.disk e)

def chooseFile (origin : Origin) (query : Query) : Except Obstacle (Option Path) :=
  if !query.useFile then .ok none
  else
    match query.configPath with
    | some text => .ok (some (.ofText text))
    | none => do
        let named ←
          if query.useEnvironment then orDisk (pathOfEnvironment origin.fs origin.environment)
          else pure none
        match named with
        | some path => return some path
        | none => orDisk (findFile origin.fs origin.userDirectories query.start)

def fileLayer (origin : Origin) : Option Path → Except Obstacle Value.Entries
  | none => .ok []
  | some path => fileEntries origin.fs path

/-- The layer of the environment, if it is used. -/
def environmentLayer (origin : Origin) (query : Query) : Value.Entries :=
  if query.useEnvironment then overrides origin.environment else []

def withLayer (draft : Draft) (source : Source) (layer : Value.Entries) : Except Obstacle Draft :=
  (draft.apply source layer).mapError .breakdown

/-- Merges all layers and checks the result. -/
def resolve (origin : Origin) (query : Query) : Except Obstacle Resolved := do
  let defaults ← checked origin.environment []
  let file ← chooseFile origin query
  let draft ← withLayer ⟨defaults.entries, []⟩ .configFile (← fileLayer origin file)
  let draft ← withLayer draft .environment (environmentLayer origin query)
  let arguments ← (argumentLayer query.arguments).mapError .config
  let draft ← withLayer draft .commandLine arguments
  let settings ← checked origin.environment draft.entries
  return ⟨settings, file, draft.sources⟩

def load (origin : Origin) (query : Query) : Except Obstacle Settings :=
  (resolve origin query).map (·.settings)

end MobileAudit.Settings
