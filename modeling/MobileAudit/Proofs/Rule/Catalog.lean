import MobileAudit.Proofs.Scan.Schedule
import MobileAudit.Rule.Catalog

namespace MobileAudit

open Scan

/-! The built-in rules report under their own names, and about the files that they are given. -/

/-- A rule whose findings bear its name and the path of the file, whatever the syntax tree is. -/
structure Rule.Signs (rule : Rule) : Prop where
  signed : ∀ context, ∀ found ∈ (findingsOf rule context).value,
    found.ruleId = rule.id ∧ found.path = context.path
  treeless : ∀ context tree,
    (findingsOf rule { context with tree }).value = (findingsOf rule context).value

/-- A rule whose findings are made at offsets of the file. -/
def Rule.Locates (rule : Rule) : Prop :=
  ∀ context, ∀ found ∈ (findingsOf rule context).value, ∃ (offset : Nat) (advice : String),
    found = findingAt rule.id rule.description rule.severity context.path context.content.toList
      offset (some advice)

namespace RuleCard

theorem findingsOf_toRule (card : RuleCard) (detect : FileContext → List Finding)
    (context : FileContext) : (findingsOf (card.toRule detect) context).value = detect context := by
  have answer : ((card.toRule detect).apply context).findings = .ok (detect context) :=
    RuleAnswer.findings_ofFindings (detect context)
  unfold findingsOf
  rw [answer]

theorem locates (card : RuleCard) (detect : FileContext → List Finding)
    (carded : ∀ context, ∀ found ∈ detect context,
      ∃ offset advice, found = card.finding context offset advice) :
    (card.toRule detect).Locates := by
  intro context found member
  rw [findingsOf_toRule] at member
  exact carded context found member

private theorem signs (card : RuleCard) (detect : FileContext → List Finding)
    (locates : (card.toRule detect).Locates)
    (treeless : ∀ context tree, detect { context with tree } = detect context) :
    (card.toRule detect).Signs := by
  constructor
  · intro context found member
    obtain ⟨offset, advice, rfl⟩ := locates context found member
    exact ⟨rfl, rfl⟩
  · intro context tree
    rw [findingsOf_toRule, findingsOf_toRule]
    exact treeless context tree

end RuleCard

namespace Rule

private theorem detectEach_locates (card : RuleCard) (pattern : Pattern) (advice : String)
    (textOf : FileContext → Option String) :
    (card.toRule (detectEach card pattern advice textOf)).Locates := by
  refine card.locates _ fun context found member => ?_
  obtain ⟨m, _, rfl⟩ := List.mem_map.mp member
  exact ⟨_, _, rfl⟩

private theorem sourceSecret_locates : sourceSecret.Locates := by
  refine sourceSecretCard.locates _ fun context found member => ?_
  obtain ⟨offset, _, rfl⟩ := List.mem_map.mp member
  exact ⟨_, _, rfl⟩

private theorem configSecret_locates : configSecret.Locates := by
  refine configSecretCard.locates _ fun context found member => ?_
  obtain ⟨entry, _, rfl⟩ := List.mem_map.mp member
  exact ⟨_, _, rfl⟩

private theorem sensitiveStorage_locates : sensitiveStorage.Locates := by
  refine storageCard.locates _ fun context found member => ?_
  obtain ⟨m, _, rfl⟩ := List.mem_map.mp member
  exact ⟨_, _, rfl⟩

theorem builtIn_locates : ∀ rule ∈ builtIn, rule.Locates := by
  intro rule member
  simp only [builtIn, catalog, List.flatMap_cons, List.flatMap_nil, List.cons_append,
    List.nil_append, List.mem_cons, List.not_mem_nil, or_false] at member
  rcases member with rfl | rfl | rfl | rfl | rfl | rfl
  · exact sourceSecret_locates
  · exact configSecret_locates
  · exact sensitiveStorage_locates
  · exact detectEach_locates _ _ _ _
  · exact detectEach_locates _ _ _ _
  · exact detectEach_locates _ _ _ _

theorem builtIn_signs : ∀ rule ∈ builtIn, rule.Signs := by
  intro rule member
  have locates := builtIn_locates rule member
  simp only [builtIn, catalog, List.flatMap_cons, List.flatMap_nil, List.cons_append,
    List.nil_append, List.mem_cons, List.not_mem_nil, or_false] at member
  rcases member with rfl | rfl | rfl | rfl | rfl | rfl
  all_goals exact RuleCard.signs _ _ locates fun _ _ => rfl

/-- A rule that finds the same in a file wherever the file lies. -/
def Relocates (rule : Rule) : Prop :=
  ∀ context path, (findingsOf rule { context with path }).value =
    (findingsOf rule context).value.map fun found => { found with path }

theorem relocates_toRule (card : RuleCard) (detect : FileContext → List Finding)
    (moved : ∀ context path, detect { context with path } =
      (detect context).map fun found => { found with path }) :
    (card.toRule detect).Relocates := by
  intro context path
  rw [RuleCard.findingsOf_toRule, RuleCard.findingsOf_toRule]
  exact moved context path

private theorem detectEach_relocates (card : RuleCard) (pattern : Pattern) (advice : String)
    (textOf : FileContext → Option String)
    (same : ∀ context path, textOf { context with path } = textOf context) :
    (card.toRule (detectEach card pattern advice textOf)).Relocates := by
  refine relocates_toRule card _ fun context path => ?_
  unfold detectEach
  rw [same, List.map_map]
  rfl

theorem builtIn_relocates : ∀ rule ∈ builtIn, rule.Relocates := by
  intro rule member
  simp only [builtIn, catalog, List.flatMap_cons, List.flatMap_nil, List.cons_append,
    List.nil_append, List.mem_cons, List.not_mem_nil, or_false] at member
  rcases member with rfl | rfl | rfl | rfl | rfl | rfl
  · refine relocates_toRule _ _ fun context path => ?_
    unfold detectSourceSecrets
    rw [List.map_map]
    rfl
  · refine relocates_toRule _ _ fun context path => ?_
    unfold detectConfigSecrets
    rw [List.map_map]
    rfl
  · refine relocates_toRule _ _ fun context path => ?_
    unfold detectStorage
    rw [List.map_map]
    rfl
  · exact detectEach_relocates _ _ _ _ fun _ _ => rfl
  · exact detectEach_relocates _ _ _ _ fun _ _ => rfl
  · exact detectEach_relocates _ _ _ _ fun _ _ => rfl

end Rule

namespace Scan

/-! What is reported of a file, rule by rule. -/

def reportsOf (rule : Rule) (path : String) (bytes : ByteArray) : List Finding :=
  analysis [rule] .absent path bytes

private theorem contextOf_tree (parser : SourceParser) (path content : String) :
    ∃ tree, (contextOf parser path content).value =
      { (contextOf .absent path content).value with tree } := by
  unfold contextOf
  cases FileKind.ofPath? path with
  | none => exact ⟨_, rfl⟩
  | some kind => cases kind <;> exact ⟨_, rfl⟩

private theorem foundBy_treeless {rules : List Rule} (signs : ∀ rule ∈ rules, rule.Signs)
    (context : FileContext) (tree : Option String) :
    foundBy rules { context with tree } = foundBy rules context := by
  unfold foundBy
  rw [List.flatMap_def, List.flatMap_def, List.map_congr_left]
  intro rule member
  exact (signs rule member).treeless context tree

theorem analysis_cons {rule : Rule} {rules : List Rule} (parser : SourceParser) (path : String)
    (bytes : ByteArray) :
    analysis (rule :: rules) parser path bytes =
      analysis [rule] parser path bytes ++ analysis rules parser path bytes := by
  unfold analysis foundBy
  simp only [List.filter_cons, List.filter_nil]
  split
  · simp only [List.flatMap_cons, List.flatMap_nil, List.append_nil, List.filter_append]
  · simp only [List.flatMap_nil, List.filter_nil, List.nil_append]

theorem analysis_treeless {rules : List Rule} (signs : ∀ rule ∈ rules, rule.Signs)
    (parser : SourceParser) (path : String) (bytes : ByteArray) :
    analysis rules parser path bytes = analysis rules .absent path bytes := by
  obtain ⟨tree, context⟩ := contextOf_tree parser path (Text.decodeLossy bytes)
  have applied : ∀ rule ∈ rules.filter (·.appliesTo path), rule.Signs := by
    intro rule member
    exact signs rule (List.mem_filter.mp member).1
  unfold analysis
  rw [context]
  simp only [foundBy_treeless applied]

theorem analysis_signs {rules : List Rule} (signs : ∀ rule ∈ rules, rule.Signs)
    (parser : SourceParser) (path : String) (bytes : ByteArray) :
    analysis rules parser path bytes = rules.flatMap fun rule => reportsOf rule path bytes := by
  rw [analysis_treeless signs]
  induction rules with
  | nil => rfl
  | cons rule rules ih =>
      rw [analysis_cons, List.flatMap_cons, ih fun other member => signs other (by simp [member])]
      rfl

theorem reportsOf_signed {rule : Rule} (signs : rule.Signs) {path : String} {bytes : ByteArray}
    {found : Finding} (member : found ∈ reportsOf rule path bytes) :
    found.ruleId = rule.id ∧ found.path = path := by
  unfold reportsOf analysis foundBy at member
  obtain ⟨reported, _⟩ := List.mem_filter.mp member
  obtain ⟨other, applies, found'⟩ := List.mem_flatMap.mp reported
  obtain rfl := List.mem_singleton.mp (List.mem_filter.mp applies).1
  obtain ⟨id, here⟩ := signs.signed _ found found'
  exact ⟨id, here.trans (contextOf_path _ _ _)⟩

end Scan

end MobileAudit
