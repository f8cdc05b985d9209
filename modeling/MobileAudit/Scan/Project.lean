import MobileAudit.Scan.Engine
import MobileAudit.Settings.Environment

namespace MobileAudit.Scan

/-! Scans of a project directory with its cache, or of a single file without one. -/

open Disk Cache

def toolVersion : String := "1.0.0"

structure Request where
  path : String
  settings : Option Settings := none
  version : String := toolVersion
  groups : List RuleGroup := Rule.catalog
  parser : SourceParser := .absent
  clearCache : Bool := false
  listener : Engine.Listener := none
  /-- The first turns that the tasks take. -/
  turns : List Nat := []

namespace Engine

/-- An engine with the given settings and no cache. -/
def ofSettings (settings : Settings) (groups : List RuleGroup) (parser : SourceParser) :
    Engine where
  parser
  groups
  ignored := settings.scan.ignoredRules
  excluded := settings.scan.exclude
  concurrency := slotsOf settings.scan.concurrency

def pruneCache (engine : Engine) (now : Int) (existing : List String) (maxAgeMs : Int) :
    Logged Engine :=
  match engine.cache with
  | none => ⟨engine, []⟩
  | some store =>
      let pruned := store.prune now existing maxAgeMs
      ⟨{ engine with cache := some pruned.value.1 }, pruned.logs⟩

def prepareCache (engine : Engine) (scene : Scene) (root : Path) (settings : CacheSettings)
    (version : String) (clear : Bool) : Except Failure CacheWork :=
  if !settings.enabled then .ok ⟨engine, scene.fs, [], none⟩
  else
    match engine.attachCache scene root version settings.fileName with
    | .error cause => .error (.cacheTooDeep cause)
    | .ok attached =>
        if clear then
          let cleared := attached.value.clearCache scene
          .ok { cleared with logs := attached.logs ++ cleared.logs }
        else .ok ⟨attached.value, scene.fs, attached.logs, none⟩

/-- Scans a directory: prepares the cache, finds the files, drops stale entries and runs. -/
def scanRoot (engine : Engine) (scene : Scene) (root : Path) (settings : CacheSettings)
    (version : String) (clear : Bool) (listener : Listener) (turns : List Nat) : Ended :=
  match engine.prepareCache scene root settings version clear with
  | .error failure => { result := .error failure, engine, fs := scene.fs, logs := [] }
  | .ok ⟨engine, fs, logs, some e⟩ => { result := .error (.disk e), engine, fs, logs }
  | .ok ⟨engine, fs, logs, none⟩ =>
      let found := engine.discover fs root root.text
      match found.value with
      | .error failure =>
          { result := .error (.ofDiscovery failure), engine, fs, logs := logs ++ found.logs }
      | .ok group =>
          let pruned := engine.pruneCache scene.now group.all settings.maxAgeMs
          let ended := pruned.value.scanFiles ⟨fs, scene.now⟩ group.all listener turns
          { ended with logs := logs ++ found.logs ++ pruned.logs ++ ended.logs }

end Engine

/-- A scan that ended before there was an engine. -/
def stopped (scene : Scene) (failure : Failure) : Ended :=
  { result := .error failure, engine := {}, fs := scene.fs, logs := [] }

/-- The settings of a request; without any, the defaults of the environment. -/
def settingsOf (environment : Settings.Environment) (request : Request) :
    Except Failure Settings :=
  match request.settings with
  | some settings => .ok settings
  | none =>
      match Settings.check environment (.map []) with
      | .valid settings => .ok settings
      | .invalid problems => .error (.settings problems)
      | .broken cause => .error (.breakdown cause)

/-- Scans the project directory or the single file at a path. -/
def scanProject (scene : Scene) (environment : Settings.Environment) (request : Request) :
    Ended :=
  match scene.fs.resolve (.ofText request.path) with
  | .error e => stopped scene (.disk e)
  | .ok target =>
      match scene.fs.look target with
      | .error e => stopped scene (.disk e)
      | .ok none => stopped scene (.pathMissing request.path)
      | .ok (some node) =>
          match settingsOf environment request with
          | .error failure => stopped scene failure
          | .ok settings =>
              let engine := Engine.ofSettings settings request.groups request.parser
              if node.isFolder then
                engine.scanRoot scene target settings.cache request.version request.clearCache
                  request.listener request.turns
              else engine.scanFiles scene [target.text] request.listener request.turns

end MobileAudit.Scan
