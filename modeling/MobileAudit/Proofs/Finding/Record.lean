import MobileAudit.Finding.Record
import MobileAudit.Proofs.Json.Range
import MobileAudit.Proofs.Json.RoundTrip

namespace MobileAudit

/-! Records of findings.  A finding is checked to be itself after it has been made a record, and its
record is a document of which only the line number may be too long to be read. -/

namespace Check

theorem itemsFrom_map {α : Type} (check : Value → Checked α) (toValue : α → Value) (items : List α)
    (each : ∀ a ∈ items, check (toValue a) = .valid a) :
    ∀ index, itemsFrom check index (items.map toValue) = .valid items := by
  induction items with
  | nil =>
      intro index
      rfl
  | cons a items ih =>
      intro index
      have tail := ih fun b member => each b (by simp [member])
      rw [List.map_cons, itemsFrom, each a (by simp), tail (index + 1)]
      rfl

end Check

@[simp] theorem Finding.check_toValue (keepAbsent : Bool) (f : Finding) :
    Finding.check (f.toValue keepAbsent) = .valid f := by
  obtain ⟨ruleId, description, severity, path, line, snippet, suggestion⟩ := f
  have graded : Severity.check (.text severity.name) = .valid severity := by
    rw [Severity.check, Severity.ofName?_name]
  have found : ∃ entries,
      (toValue keepAbsent ⟨ruleId, description, severity, path, line, snippet, suggestion⟩).bare =
        .map entries ∧
      Check.required entries ["ruleId", "rule_id"] Check.text = .valid ruleId ∧
      Check.required entries ["description"] Check.text = .valid description ∧
      Check.required entries ["severity"] Severity.check =
        (Severity.check (.text severity.name)).under "severity" ∧
      Check.required entries ["filePath", "file_path"] Check.text = .valid path ∧
      Check.optional entries ["line"] none (Check.nullable Check.integer) = .valid line ∧
      Check.optional entries ["snippet"] none (Check.nullable Check.text) = .valid snippet ∧
      Check.optional entries ["suggestion"] none (Check.nullable Check.text) =
        .valid suggestion := by
    cases keepAbsent <;> cases line <;> cases snippet <;> cases suggestion <;>
      exact ⟨_, rfl, rfl, rfl, rfl, rfl, rfl, rfl, rfl⟩
  obtain ⟨entries, isMap, rule, described, severe, placed, lined, shown, suggested⟩ := found
  rw [Finding.check, Check.record, isMap]
  simp only [fields, rule, described, severe, graded, placed, lined, shown, suggested,
    Check.Checked.under_valid, Check.Checked.and_valid, Check.Checked.map_valid]

/-! Records are documents. -/

def presentFields (keepAbsent : Bool) (fields : List (String × Option Value)) :
    List (String × Value) :=
  fields.filterMap fun (name, field) =>
    match field with
    | some v => some (name, v)
    | none => if keepAbsent then some (name, .null) else none

theorem recordOf_eq (keepAbsent : Bool) (fields : List (String × Option Value)) :
    recordOf keepAbsent fields =
      .map ((presentFields keepAbsent fields).map Json.fieldEntry) := by
  unfold recordOf presentFields
  rw [List.map_filterMap]
  congr 2
  funext field
  obtain ⟨name, field⟩ := field
  cases field with
  | none => cases keepAbsent <;> rfl
  | some v => rfl

private theorem presentFields_names (keepAbsent : Bool) (fields : List (String × Option Value)) :
    ((presentFields keepAbsent fields).map (·.1)).Sublist (fields.map (·.1)) := by
  induction fields with
  | nil => exact List.Sublist.refl _
  | cons field fields ih =>
      obtain ⟨name, field⟩ := field
      cases field with
      | none =>
          cases keepAbsent with
          | true => exact ih.cons_cons name
          | false => exact ih.cons name
      | some v => exact ih.cons_cons name

theorem recordOf_document (keepAbsent : Bool) (fields : List (String × Option Value))
    {depth : Nat} (distinct : (fields.map (·.1)).Nodup)
    (each : ∀ field ∈ fields, ∀ v ∈ field.2, Json.Document depth v) :
    Json.Document (depth + 1) (recordOf keepAbsent fields) := by
  rw [recordOf_eq]
  refine .map _ (distinct.sublist (presentFields_names keepAbsent fields)) ?_
  rintro ⟨name, v⟩ member
  obtain ⟨⟨name', field⟩, inside, present⟩ := List.mem_filterMap.mp member
  cases field with
  | none =>
      cases keepAbsent with
      | true =>
          cases present
          exact .null
      | false => cases present
  | some w =>
      cases present
      exact each _ inside v rfl

theorem Finding.document (keepAbsent : Bool) (f : Finding) :
    Json.Document 1 (f.toValue keepAbsent) := by
  refine recordOf_document keepAbsent _ (by simp) ?_
  intro field member v value
  simp only [List.mem_cons, List.not_mem_nil, or_false] at member
  rcases member with rfl | rfl | rfl | rfl | rfl | rfl | rfl
  · cases value
    exact .text f.ruleId
  · cases value
    exact .text f.description
  · cases value
    exact .text f.severity.name
  · cases value
    exact .text f.path
  · obtain ⟨n, _, rfl⟩ := Option.map_eq_some_iff.mp value
    exact .int n
  · obtain ⟨s, _, rfl⟩ := Option.map_eq_some_iff.mp value
    exact .text s
  · obtain ⟨s, _, rfl⟩ := Option.map_eq_some_iff.mp value
    exact .text s

/-! Records whose integers can be read. -/

namespace Value

private theorem entriesWritable_fields (fields : List (String × Value)) :
    entriesWritable (fields.map Json.fieldEntry) = fields.all fun field => field.2.isWritable := by
  induction fields with
  | nil => rfl
  | cons field fields ih =>
      rw [List.map_cons, Json.fieldEntry, entriesWritable, ih]
      rfl

end Value

@[simp] theorem isWritable_recordOf (keepAbsent : Bool) (fields : List (String × Option Value)) :
    (recordOf keepAbsent fields).isWritable =
      fields.all fun field => field.2.all Value.isWritable := by
  rw [recordOf_eq, Value.isWritable, Value.entriesWritable_fields]
  induction fields with
  | nil => rfl
  | cons field fields ih =>
      obtain ⟨name, value⟩ := field
      rw [List.all_cons, ← ih]
      cases value with
      | some v => rfl
      | none => cases keepAbsent <;> rfl

def Finding.fits (f : Finding) : Bool := f.line.all Number.fitsDecimal

@[simp] theorem Finding.isWritable_toValue (keepAbsent : Bool) (f : Finding) :
    (f.toValue keepAbsent).isWritable = f.fits := by
  rw [toValue, isWritable_recordOf, fits]
  cases f.line <;> cases f.snippet <;> cases f.suggestion <;>
    simp [Value.isWritable]

/-! Reports that are printed as documents.  Nothing of a report is lost in its document: what is
absent comes back as absent and every text as it was.  Only integers of more digits than can be
read do not come back. -/

namespace ScanReport

/-- Whether every integer of a report has at most as many digits as can be read. -/
def fits (report : ScanReport) : Bool :=
  report.findings.all Finding.fits && Number.fitsDecimal report.scannedFiles &&
    report.skippedFiles.all Number.fitsDecimal && report.cachedFiles.all Number.fitsDecimal

@[simp] theorem check_toValue (keepAbsent : Bool) (report : ScanReport) :
    check (report.toValue keepAbsent) = .valid report := by
  obtain ⟨findings, scannedFiles, skippedFiles, cachedFiles⟩ := report
  have each : Check.list Finding.check (.list (findings.map (Finding.toValue keepAbsent))) =
      .valid findings :=
    Check.itemsFrom_map _ _ findings (fun f _ => f.check_toValue keepAbsent) 0
  have found : ∃ entries,
      (toValue keepAbsent ⟨findings, scannedFiles, skippedFiles, cachedFiles⟩).bare =
        .map entries ∧
      Check.optional entries ["findings"] [] (Check.list Finding.check) =
        (Check.list Finding.check (.list (findings.map (Finding.toValue keepAbsent)))).under
          "findings" ∧
      Check.optional entries ["scannedFiles", "scanned_files"] 0 Check.integer =
        .valid scannedFiles ∧
      Check.optional entries ["skippedFiles", "skipped_files"] none
        (Check.nullable Check.integer) = .valid skippedFiles ∧
      Check.optional entries ["cachedFiles", "cached_files"] none
        (Check.nullable Check.integer) = .valid cachedFiles := by
    cases keepAbsent <;> cases skippedFiles <;> cases cachedFiles <;>
      exact ⟨_, rfl, rfl, rfl, rfl, rfl⟩
  obtain ⟨entries, isMap, listed, scanned, skipped, cached⟩ := found
  rw [check, Check.record, isMap]
  simp only [fields, listed, each, scanned, skipped, cached, Check.Checked.under_valid,
    Check.Checked.and_valid, Check.Checked.map_valid]

private theorem document (keepAbsent : Bool) (report : ScanReport) :
    Json.Document 3 (report.toValue keepAbsent) := by
  refine recordOf_document keepAbsent _ (by simp) ?_
  intro field member v value
  simp only [List.mem_cons, List.not_mem_nil, or_false] at member
  rcases member with rfl | rfl | rfl | rfl
  · cases value
    refine .list _ ?_
    intro v inside
    obtain ⟨f, _, rfl⟩ := List.mem_map.mp inside
    exact f.document keepAbsent
  · cases value
    exact .int report.scannedFiles
  · obtain ⟨n, _, rfl⟩ := Option.map_eq_some_iff.mp value
    exact .int n
  · obtain ⟨n, _, rfl⟩ := Option.map_eq_some_iff.mp value
    exact .int n

@[simp] theorem isWritable_toValue (keepAbsent : Bool) (report : ScanReport) :
    (report.toValue keepAbsent).isWritable = report.fits := by
  have each : ((report.findings.map (Finding.toValue keepAbsent)).all Value.isWritable) =
      report.findings.all Finding.fits := by
    rw [List.all_map]
    exact List.all_congr rfl fun f => f.isWritable_toValue keepAbsent
  rw [toValue, isWritable_recordOf, fits]
  cases report.skippedFiles <;> cases report.cachedFiles <;>
    simp [Value.isWritable, Value.allWritable_eq, each, Bool.and_assoc]

/-- The document of a report is read and checked to be that report. -/
theorem read_toJson (report : ScanReport) (fits : report.fits = true) :
    (Json.read report.toJson).map check = .ok (.valid report) := by
  have document := (report.document false).mono (show 3 ≤ Json.maxDepth by decide)
  have writable := (report.isWritable_toValue false).trans fits
  have read : Json.read report.toJson = .ok (report.toValue false) :=
    (Json.read_write .document document).1 writable
  rw [read, Except.map, report.check_toValue false]

/-- Quotes, backslashes, control characters and line separators come back as they were, and so do
absent fields beside present ones. -/
theorem read_toJson_quoted :
    let report : ScanReport := {
      findings := [
        { ruleId := "R", description := "\"\\\x07", severity := .high, path := "a\nb",
          line := some (-3), snippet := some "\u2028😀" },
        { ruleId := "", description := "\t", severity := .low, path := "\x7f",
          suggestion := some "null" }]
      scannedFiles := 2, cachedFiles := some 0 }
    (Json.read report.toJson).map check = .ok (.valid report) := by
  intro report
  exact read_toJson report (by decide +kernel)

end ScanReport

end MobileAudit
