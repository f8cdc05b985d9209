import MobileAudit.Check.Scalar
import MobileAudit.Finding
import MobileAudit.Json.Write

namespace MobileAudit

/-! Findings and scan reports as records of data documents. -/

namespace Severity

def check : Value → Check.Checked Severity
  | .text s =>
      match ofName? s with
      | some severity => .valid severity
      | none => .flawed (.notOneOf (all.map name))
  | _ => .flawed (.notOneOf (all.map name))

end Severity

/-- Fields of a record; absent ones are written as `null` or left out. -/
def recordOf (keepAbsent : Bool) (fields : List (String × Option Value)) : Value :=
  .map (fields.filterMap fun (name, field) =>
    match field with
    | some v => some (.text name, v)
    | none => if keepAbsent then some (.text name, .null) else none)

namespace Finding

def fields (entries : Value.Entries) : Check.Checked Finding :=
  ((Check.required entries ["ruleId", "rule_id"] Check.text).and
    ((Check.required entries ["description"] Check.text).and
    ((Check.required entries ["severity"] Severity.check).and
    ((Check.required entries ["filePath", "file_path"] Check.text).and
    ((Check.optional entries ["line"] none (Check.nullable Check.integer)).and
    ((Check.optional entries ["snippet"] none (Check.nullable Check.text)).and
    (Check.optional entries ["suggestion"] none (Check.nullable Check.text)))))))).map
    fun (ruleId, description, severity, path, line, snippet, suggestion) =>
      { ruleId, description, severity, path, line, snippet, suggestion }

def check (v : Value) : Check.Checked Finding :=
  Check.record "Finding" fields v

def toValue (keepAbsent : Bool) (f : Finding) : Value :=
  recordOf keepAbsent
    [("ruleId", some (.text f.ruleId)), ("description", some (.text f.description)),
      ("severity", some (.text f.severity.name)), ("filePath", some (.text f.path)),
      ("line", f.line.map .int), ("snippet", f.snippet.map .text),
      ("suggestion", f.suggestion.map .text)]

end Finding

/-- The outcome of a scan.  Counts of skipped and cached files are absent when there are none. -/
structure ScanReport where
  findings : List Finding := []
  scannedFiles : Int := 0
  skippedFiles : Option Int := none
  cachedFiles : Option Int := none
deriving DecidableEq

namespace ScanReport

def fields (entries : Value.Entries) : Check.Checked ScanReport :=
  ((Check.optional entries ["findings"] [] (Check.list Finding.check)).and
    ((Check.optional entries ["scannedFiles", "scanned_files"] 0 Check.integer).and
    ((Check.optional entries ["skippedFiles", "skipped_files"] none
      (Check.nullable Check.integer)).and
    (Check.optional entries ["cachedFiles", "cached_files"] none
      (Check.nullable Check.integer))))).map
    fun (findings, scannedFiles, skippedFiles, cachedFiles) =>
      { findings, scannedFiles, skippedFiles, cachedFiles }

def check (v : Value) : Check.Checked ScanReport :=
  Check.record "ScanResult" fields v

def toValue (keepAbsent : Bool) (report : ScanReport) : Value :=
  recordOf keepAbsent
    [("findings", some (.list (report.findings.map (Finding.toValue keepAbsent)))),
      ("scannedFiles", some (.int report.scannedFiles)),
      ("skippedFiles", report.skippedFiles.map .int),
      ("cachedFiles", report.cachedFiles.map .int)]

def toJson (report : ScanReport) : String :=
  Json.write .document (report.toValue false)

end ScanReport

end MobileAudit
