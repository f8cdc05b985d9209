import MobileAudit.Command.Outcome
import MobileAudit.Command.Request
import MobileAudit.Console.Report
import MobileAudit.Scan.Project
import MobileAudit.Verbosity

namespace MobileAudit.Command

/-! The command that scans a project or a file. -/

open Disk Scan

def ScanRequest.arguments (request : ScanRequest) : Value.Entries :=
  let given := fun (b : Bool) => if b then Value.bool true else .null
  [(.text "concurrency", (request.concurrency.map Value.int).getD .null),
    (.text "exclude", .list (request.exclude.map .text)),
    (.text "ignore", .list (request.ignore.map .text)),
    (.text "no_cache", .bool request.noCache),
    (.text "format", (request.format.map Value.text).getD .null),
    (.text "verbose", given request.verbose), (.text "quiet", given request.quiet)]

/-- The settings for a scan; a file of settings is looked for from the scanned directory upwards. -/
def ScanRequest.settings (request : ScanRequest) (origin : Settings.Origin) (target : Path)
    (isFolder : Bool) : Except Settings.Obstacle Settings :=
  Settings.load origin
    { configPath := request.configFile
      arguments := request.arguments
      start := some (if isFolder then target else target.parent).text }

def header (target : Path) (settings : Settings) : Except Markup.Error (List (List Char)) :=
  [("Scanning:", target.text), ("Concurrency:", toString settings.scan.concurrency),
    ("Cache:", if settings.cache.enabled then "on" else "off")].mapM fun (label, text) =>
      Markup.render (Markup.styled "dim" label ++ ' ' :: text.toList)

def progressLine (p : Progress) : List Char :=
  let share := match p.percent? with
    | some percent => Number.fixed 0 percent
    | none => "inf"
  ("DEBUG Progress: " ++ toString p.current ++ "/" ++ toString p.total ++ " files (" ++ share ++
    "%)").toList

/-- The events of a scan that are heavy enough to be shown. -/
def eventText (verbose : Bool) (settings : Settings) (ended : Scan.Ended) : List Char :=
  match Verbosity.threshold verbose (some settings.logLevel.name) with
  | .error _ => []
  | .ok least =>
      let events := ended.logs.filter fun d => least ≤ d.level.weight
      let progress := if verbose then ended.progress else []
      Console.ended (events.map (·.line.toList) ++ progress.map progressLine)

def scanFailed (fs : FileSystem) (out : List Char) (failure : Scan.Failure) : Outcome :=
  match failure with
  | .pathMissing path =>
      .failed fs out "Scan Error"
        (Outcome.messageText "Scan Error" failure.message (some ("Path", path)))
  | _ => .failed fs out "Error" (Outcome.messageText "Error during scan" failure.message none)

def printReport (fs : FileSystem) (out : List Char) (target : Path) (settings : Settings)
    (report : ScanReport) : Outcome :=
  let exitCode := if report.findings.isEmpty then Outcome.success else Outcome.findings
  .printed fs out exitCode <|
    match settings.output.format with
    | .json => .ok (report.toJson.toList ++ ['\n'])
    | .table =>
        if settings.output.quiet && report.findings.isEmpty then .ok []
        else (report.text (ScanReport.defaultTitle ++ ": " ++ target.text)).map fun text =>
          Console.withEmoji text ++ ['\n']

def scanWith (setup : Setup) (request : ScanRequest) (target : Path) (settings : Settings)
    (out : List Char) : Outcome :=
  let verbose := settings.output.verbose && !settings.output.quiet
  let ended := scanProject ⟨setup.origin.fs, setup.now⟩ setup.origin.environment
    { path := target.text
      settings := some settings
      clearCache := request.clearCache
      listener := if verbose then some fun _ => none else none }
  let out := out ++ eventText verbose settings ended
  match ended.result with
  | .error failure => scanFailed ended.fs out failure
  | .ok report => printReport ended.fs out target settings report

def scan (setup : Setup) (request : ScanRequest) : Outcome :=
  let fs := setup.origin.fs
  let located : Except DiskError (Path × Option Node) := do
    let target ← fs.resolve (.ofText request.path)
    return (target, ← fs.look target)
  match located with
  | .error e => .crashed fs [] e.message
  | .ok (target, none) => scanFailed fs [] (.pathMissing target.text)
  | .ok (target, some node) =>
      match request.settings setup.origin target node.isFolder with
      | .error obstacle => .obstructed fs obstacle
      | .ok settings =>
          if settings.output.verbose && !settings.output.quiet then
            match header target settings with
            | .error e => .crashed fs [] e.message
            | .ok lines => scanWith setup request target settings (Console.ended lines)
          else scanWith setup request target settings []

end MobileAudit.Command
