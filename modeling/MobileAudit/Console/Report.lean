import MobileAudit.Console.Table
import MobileAudit.Finding.Record

namespace MobileAudit.ScanReport

/-! Scan reports for the console. -/

open Console

def styleOf : Severity → String
  | .critical => "bold red"
  | .high => "red"
  | .medium => "yellow"
  | .low => "blue"

/-- Where a finding is: its path, and its line if that is known. -/
def locationOf (f : Finding) : String :=
  match f.line with
  | some line => f.path ++ ":" ++ toString line
  | none => f.path

/-- One row for each finding.  The name of a rule may have tags. -/
def table (report : ScanReport) (title : String) : Table where
  title := Markup.escape title.toList
  header := ["Severity", "Rule", "Location", "Description"]
  rows := report.findings.map fun f =>
    [Markup.styled (styleOf f.severity) f.severity.name, f.ruleId.toList,
      Markup.escape (locationOf f).toList, Markup.escape f.description.toList]

def severityCount (report : ScanReport) (severity : Severity) : Nat :=
  report.findings.countP (·.severity == severity)

/-- A line for a count that is known and not zero. -/
def countLine (label : String) : Option Int → List String
  | none => []
  | some n => if n == 0 then [] else ["  " ++ label ++ ": " ++ toString n]

/-- Findings by severity, the gravest first. -/
def severityLines (report : ScanReport) : List String :=
  if report.findings.isEmpty then []
  else "  By severity:" :: (Severity.all.filter (report.severityCount · > 0)).map fun severity =>
    "    " ++ severity.name ++ ": " ++ toString (report.severityCount severity)

def summary (report : ScanReport) : List String :=
  ["", "Scan Summary", "  Files scanned: " ++ toString report.scannedFiles,
    "  Total findings: " ++ toString report.findings.length] ++
    countLine "Files skipped" report.skippedFiles ++
    countLine "Files from cache" report.cachedFiles ++ report.severityLines

def defaultTitle : String := "Scan Results"

def text (report : ScanReport) (title : String) : Except Markup.Error (List Char) :=
  (report.table title).lines.map fun lines =>
    ended (lines ++ report.summary.map String.toList)

end MobileAudit.ScanReport
