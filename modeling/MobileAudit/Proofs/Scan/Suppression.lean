import MobileAudit.Proofs.Rule.Catalog
import MobileAudit.Proofs.Surroundings.DebugCode

namespace MobileAudit.Scan

open Surroundings

/-! Findings in code for development.  The snippet of a finding is an excerpt of its file, so that
the file and its path alone decide whether the findings of the built-in rules are kept. -/

private theorem isDebug_locates {rule : Rule} (locates : rule.Locates) {context : FileContext}
    {found : Finding} (member : found ∈ (findingsOf rule context).value) :
    isDebug context.content.toList (found.snippet.getD "").toList found.path.toList =
      isDebug context.content.toList [] context.path.toList := by
  obtain ⟨offset, advice, rfl⟩ := locates context found member
  simp only [Rule.findingAt, Option.getD_some, String.toList_ofList]
  exact isDebug_excerpt (Location.snippet_isExcerpt _ _ _) _

/-- The snippet of a built-in finding decides nothing, so of what the built-in rules find in a file
everything is reported or nothing. -/
theorem reported_all_or_none (parser : SourceParser) (path content : String) :
    let context := (contextOf parser path content).value
    (∀ rule ∈ Rule.builtIn, ∀ found ∈ (findingsOf rule context).value,
      isDebug content.toList (found.snippet.getD "").toList found.path.toList =
        isDebug content.toList [] path.toList) ∧
      ∀ rules, (∀ rule ∈ rules, rule ∈ Rule.builtIn) →
        ∀ bytes, Text.decodeLossy bytes = content →
          analysis rules parser path bytes =
            if isDebug content.toList [] path.toList then []
            else foundBy (rules.filter (·.appliesTo path)) context := by
  intro context
  have ofFile : context.content = content := contextOf_content parser path content
  have atPath : context.path = path := contextOf_path parser path content
  have decided : ∀ rule ∈ Rule.builtIn, ∀ found ∈ (findingsOf rule context).value,
      isDebug content.toList (found.snippet.getD "").toList found.path.toList =
        isDebug content.toList [] path.toList := by
    intro rule builtIn found member
    have same := isDebug_locates (Rule.builtIn_locates rule builtIn) member
    rwa [ofFile, atPath] at same
  refine ⟨decided, fun rules builtIn bytes isContent => ?_⟩
  have kept : ∀ found ∈ foundBy (rules.filter (·.appliesTo path)) context,
      isReported content.toList found = !isDebug content.toList [] path.toList := by
    intro found member
    obtain ⟨rule, applied, isFound⟩ := List.mem_flatMap.mp member
    rw [isReported, decided rule (builtIn rule (List.mem_filter.mp applied).1) found isFound]
  unfold analysis
  rw [isContent]
  change (foundBy _ context).filter (isReported context.content.toList) = _
  rw [ofFile, List.filter_congr kept]
  cases isDebug content.toList [] path.toList with
  | true => simp
  | false => simp

theorem guard_away_from_snippet :
    let content := "if (__DEV__) \x7b\x7d\n\n\n<application android:debuggable=\"true\"/>"
    let context := (contextOf .absent "/p/a.xml" content).value
    Rule.debuggable ∈ Rule.builtIn ∧
      (∃ found ∈ (findingsOf Rule.debuggable context).value,
        isDebugCode (found.snippet.getD "").toList = false ∧
          isDebug content.toList (found.snippet.getD "").toList found.path.toList = true) ∧
      Text.decodeLossy (Text.encode content) = content ∧
        analysis Rule.builtIn .absent "/p/a.xml" (Text.encode content) = [] := by
  intro content context
  have decoded : Text.decodeLossy (Text.encode content) = content := by decide +kernel
  have inCatalog : Rule.debuggable ∈ Rule.builtIn := by simp [Rule.builtIn, Rule.catalog]
  have guarded : isDebug content.toList [] "/p/a.xml".toList = true := by decide +kernel
  obtain ⟨decided, reported⟩ := reported_all_or_none .absent "/p/a.xml" content
  obtain ⟨found, member, plain⟩ : ∃ found ∈ (findingsOf Rule.debuggable context).value,
      isDebugCode (found.snippet.getD "").toList = false := by
    decide +kernel
  refine ⟨inCatalog, ⟨found, member, plain, ?_⟩, decoded, ?_⟩
  · rw [decided _ inCatalog found member, guarded]
  · rw [reported Rule.builtIn (fun _ builtIn => builtIn) _ decoded, if_pos guarded]

end MobileAudit.Scan
