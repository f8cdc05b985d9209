import MobileAudit.Discovery.Walk
import MobileAudit.Rule.Catalog
import MobileAudit.Scan.Task

namespace MobileAudit.Scan

/-! The engine: rules, exclusions and a cache, and scans with them. -/

open Disk Cache

structure Engine where
  parser : SourceParser := .absent
  groups : List RuleGroup := []
  ignored : List String := []
  excluded : List String := []
  concurrency : Nat := 10
  cache : Option Store := none

structure Scene where
  fs : FileSystem
  now : Int

inductive Failure where
  | pathMissing (path : String)
  | disk (error : DiskError)
  | pattern (cause : Pattern.Breakdown)
  | cacheTooDeep (cause : Json.Cause)
  | settings (problems : List Check.Problem)
  | breakdown (cause : Check.Breakdown)

def Failure.message : Failure → String
  | pathMissing _ => "Path does not exist"
  | disk e => e.message
  | pattern cause => cause.message
  | cacheTooDeep cause => cause.text
  | settings problems => Text.joinTexts "\n" (problems.map (·.line))
  | breakdown cause => cause.message

def Failure.ofDiscovery : Discovery.Failure → Failure
  | .disk e => .disk e
  | .pattern cause => .pattern cause

namespace Engine

/-- At least one file at a time. -/
def slotsOf (concurrency : Int) : Nat := (max 1 concurrency).toNat

def setConcurrency (engine : Engine) (concurrency : Int) : Engine :=
  { engine with concurrency := slotsOf concurrency }

def register (engine : Engine) (group : RuleGroup) : Engine :=
  { engine with groups := engine.groups ++ [group] }

def registerCatalog (engine : Engine) : Engine :=
  { engine with groups := engine.groups ++ Rule.catalog }

/-- The rules in the order of their registration, without the ignored ones. -/
def rules (engine : Engine) : List Rule :=
  (engine.groups.flatMap (·.rules)).filter fun rule => !engine.ignored.contains rule.id

def ignoredSorted (engine : Engine) : List String :=
  engine.ignored.eraseDups.mergeSort fun a b => decide (a ≤ b)

def isCacheEnabled (engine : Engine) : Bool :=
  match engine.cache with
  | some store => store.enabled
  | none => false

def description (engine : Engine) : String :=
  "RuleEngine(rules=" ++ toString engine.rules.length ++ ", concurrency=" ++
    toString engine.concurrency ++ ", cache=" ++
    (if engine.isCacheEnabled then "True" else "False") ++ ")"

def attachCache (engine : Engine) (scene : Scene) (directory : Path) (version fileName : String) :
    Except Json.Cause (Logged Engine) :=
  ((Store.create directory version fileName scene.now).load scene.fs scene.now).map fun loaded =>
    ⟨{ engine with cache := some loaded.value }, loaded.logs⟩

def detachCache (engine : Engine) : Engine := { engine with cache := none }

/-- An engine and a disk after work on the cache, with an error that went through. -/
structure CacheWork where
  engine : Engine
  fs : FileSystem
  logs : List Diagnostic
  escaped : Option DiskError

def saveCache (engine : Engine) (scene : Scene) : CacheWork :=
  match engine.cache with
  | none => ⟨engine, scene.fs, [], none⟩
  | some store =>
      let saved := store.save scene.fs scene.now
      ⟨{ engine with cache := some saved.store }, saved.fs, saved.logs, saved.escaped⟩

def clearCache (engine : Engine) (scene : Scene) : CacheWork :=
  let emptied : Engine := { engine with cache := engine.cache.map (·.clear scene.now) }
  emptied.saveCache scene

/-- The patterns for the discovery of files.  A cache file of another than the usual name is
excluded by its name. -/
def discoveryExcludes (engine : Engine) : List String :=
  match engine.cache with
  | some store =>
      if store.file.name == defaultCacheFile then engine.excluded
      else engine.excluded ++ [store.file.name]
  | none => engine.excluded

/-- The files of a project; `shown` is how the project is called in the report. -/
def discover (engine : Engine) (fs : FileSystem) (root : Path) (shown : String) :
    Logged (Except Discovery.Failure FileGroup) :=
  let walked := Discovery.walk fs engine.discoveryExcludes root
  match walked.value with
  | .error _ => walked
  | .ok group => ⟨.ok group, walked.logs ++ [.filesToScan group.count shown]⟩

end Engine

/-- A scan that has ended, with the engine and the disk as they are then. -/
structure Ended where
  result : Except Failure ScanReport
  engine : Engine
  fs : FileSystem
  logs : List Diagnostic
  progress : List Progress := []
  tasks : List Task := []

def countOf (n : Nat) : Option Int := if n > 0 then some n else none

namespace Engine

abbrev Listener := Option (Progress → Option String)

def planOf (engine : Engine) (scene : Scene) (total : Nat) (listener : Listener) : Plan where
  fs := scene.fs
  now := scene.now
  rules := engine.rules
  parser := engine.parser
  slots := engine.concurrency
  total
  listener

def reportOf (run : Run) (total : Nat) : ScanReport where
  findings := run.findings
  scannedFiles := total
  skippedFiles := countOf run.skipped
  cachedFiles := countOf run.cached

def conclude (engine : Engine) (scene : Scene) (run : Run) (total : Nat) : Ended :=
  let saved := { engine with cache := run.cache }.saveCache scene
  match saved.escaped with
  | some e =>
      { result := .error (.disk e)
        engine := saved.engine
        fs := saved.fs
        logs := run.logs ++ saved.logs
        progress := run.progress
        tasks := run.tasks }
  | none =>
      let report := reportOf run total
      { result := .ok report
        engine := saved.engine
        fs := saved.fs
        logs := run.logs ++ saved.logs ++
          [.scanned total report.findings.length run.skipped run.cached]
        progress := run.progress
        tasks := run.tasks }

/-- Scans the given files, whatever the exclusions.  The tasks first take the given turns, in any
order, and then come to their ends. -/
def scanFiles (engine : Engine) (scene : Scene) (paths : List String) (listener : Listener)
    (turns : List Nat := []) : Ended :=
  let plan := engine.planOf scene paths.length listener
  let run := (Run.start paths engine.cache).follow plan (turns ++ Run.drain plan)
  engine.conclude scene run paths.length

def scanDirectory (engine : Engine) (scene : Scene) (root : Path) (shown : String)
    (listener : Listener) : Ended :=
  let found := engine.discover scene.fs root shown
  match found.value with
  | .error failure =>
      { result := .error (.ofDiscovery failure), engine, fs := scene.fs, logs := found.logs }
  | .ok group =>
      let ended := engine.scanFiles scene group.all listener
      { ended with logs := found.logs ++ ended.logs }

end Engine

end MobileAudit.Scan
