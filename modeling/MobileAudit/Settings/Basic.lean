import MobileAudit.Finding.Record

namespace MobileAudit

/-! The settings of the program and the checks that data has to pass to become settings. -/

inductive LogLevel where
  | debug
  | info
  | warning
  | error
  | critical
deriving DecidableEq

namespace LogLevel

def all : List LogLevel := [debug, info, warning, error, critical]

def name : LogLevel → String
  | debug => "debug"
  | info => "info"
  | warning => "warning"
  | error => "error"
  | critical => "critical"

def ofName? (name : String) : Option LogLevel := all.find? (·.name == name)

end LogLevel

inductive OutputFormat where
  | table
  | json
deriving DecidableEq

namespace OutputFormat

def all : List OutputFormat := [table, json]

def name : OutputFormat → String
  | table => "table"
  | json => "json"

def ofName? (name : String) : Option OutputFormat := all.find? (·.name == name)

end OutputFormat

def defaultCacheFile : String := ".mobsentry-cache.json"

def defaultConcurrency : Int := 10

structure ScanSettings where
  concurrency : Int := defaultConcurrency
  exclude : List String := []
  ignoredRules : List String := []
deriving DecidableEq

structure CacheSettings where
  enabled : Bool := true
  fileName : String := defaultCacheFile
  maxAgeDays : Int := 7
deriving DecidableEq

namespace CacheSettings

def maxAgeMs (settings : CacheSettings) : Int :=
  settings.maxAgeDays * 24 * 60 * 60 * 1000

end CacheSettings

structure OutputSettings where
  format : OutputFormat := .table
  quiet : Bool := false
  verbose : Bool := false
deriving DecidableEq

structure Settings where
  scan : ScanSettings := {}
  cache : CacheSettings := {}
  output : OutputSettings := {}
  logLevel : LogLevel := .warning
deriving DecidableEq

namespace Settings

open Check

/-- At least one file is processed at a time. -/
def checkConcurrency : Value → Checked Int
  | .null => .valid defaultConcurrency
  | v => (convertInteger v).map (max 1)

def isPlainName (name : List Char) : Bool :=
  !name.isEmpty && !name.contains '/' && !name.contains '\\'

def checkFileName : Value → Checked String
  | .null => .valid defaultCacheFile
  | v => (convertText v).bind fun text =>
      let name := Text.trim text.toList
      if isPlainName name then .valid (String.ofList name)
      else .flawed (.rejected "file_name must be a plain file name")

/-- A choice by its name in any case. -/
def checkChoice {α : Type} (label : String) (names : List String) (ofName? : String → Option α)
    (fallback : α) : Value → Checked α
  | .null => .valid fallback
  | v => (convertText v).bind fun text =>
      match ofName? (Text.lower text) with
      | some choice => .valid choice
      | none =>
          .flawed (.rejected (label ++ " must be one of: " ++ Text.joinTexts ", " names))

def checkFormat : Value → Checked OutputFormat :=
  checkChoice "format" (OutputFormat.all.map (·.name)) OutputFormat.ofName? .table

def checkLogLevel : Value → Checked LogLevel :=
  checkChoice "log_level" (LogLevel.all.map (·.name)) LogLevel.ofName? .warning

def scanFields (entries : Value.Entries) : Checked ScanSettings :=
  ((optional entries ["concurrency"] defaultConcurrency checkConcurrency).and
    ((optional entries ["exclude"] [] convertTexts).and
    (optional entries ["ignored_rules"] [] convertTexts))).map
    fun (concurrency, exclude, ignoredRules) => { concurrency, exclude, ignoredRules }

def cacheFields (entries : Value.Entries) : Checked CacheSettings :=
  ((optional entries ["enabled"] true truth).and
    ((optional entries ["file_name"] defaultCacheFile checkFileName).and
    (optional entries ["max_age_days"] 7 (integerAtLeast 0)))).map
    fun (enabled, fileName, maxAgeDays) => { enabled, fileName, maxAgeDays }

def outputFields (entries : Value.Entries) : Checked OutputSettings :=
  ((optional entries ["format"] .table checkFormat).and
    ((optional entries ["quiet"] false truth).and
    (optional entries ["verbose"] false truth))).map
    fun (format, quiet, verbose) => { format, quiet, verbose }

def fields (entries : Value.Entries) : Checked Settings :=
  ((optional entries ["scan"] {} (record "ScanSettings" scanFields)).and
    ((optional entries ["cache"] {} (record "CacheSettings" cacheFields)).and
    ((optional entries ["output"] {} (record "OutputSettings" outputFields)).and
    (optional entries ["log_level"] .warning checkLogLevel)))).map
    fun (scan, cache, output, logLevel) => { scan, cache, output, logLevel }

def entries (settings : Settings) : Value.Entries :=
  [(.text "scan", .map
      [(.text "concurrency", .int settings.scan.concurrency),
        (.text "exclude", .list (settings.scan.exclude.map .text)),
        (.text "ignored_rules", .list (settings.scan.ignoredRules.map .text))]),
    (.text "cache", .map
      [(.text "enabled", .bool settings.cache.enabled),
        (.text "file_name", .text settings.cache.fileName),
        (.text "max_age_days", .int settings.cache.maxAgeDays)]),
    (.text "output", .map
      [(.text "format", .text settings.output.format.name),
        (.text "quiet", .bool settings.output.quiet),
        (.text "verbose", .bool settings.output.verbose)]),
    (.text "log_level", .text settings.logLevel.name)]

def toValue (settings : Settings) : Value := .map settings.entries

end Settings

end MobileAudit
