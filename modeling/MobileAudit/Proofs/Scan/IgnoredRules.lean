import MobileAudit.Proofs.Rule.Catalog
import MobileAudit.Proofs.Scan.History

namespace MobileAudit.Scan

open Disk Cache Exclusion

/-! Ignored rules.  An entry of the cache does not tell which rules were ignored when it was made, so
a scan that takes it up reports what the scan that made it did not ignore. -/

namespace Call

def ignored (call : Call) : List String := call.settings.scan.ignoredRules

/-- Of the reported findings none bears the name of an ignored rule, and none is missing. -/
def Honours (call : Call) (reported uncached : List Finding) : Prop :=
  (∀ found ∈ reported, found.ruleId ∉ call.ignored) ∧ ∀ found ∈ uncached, found ∈ reported

/-- Two calls that ignore the same of those rules that report something in a file. -/
def AgreesOn (call other : Call) (fs : FileSystem) (path : String) : Prop :=
  ∀ bytes, fs.read (.ofText path) = .ok bytes → ∀ rule ∈ Rule.builtIn,
    reportsOf rule path bytes ≠ [] → (rule.id ∈ call.ignored ↔ rule.id ∈ other.ignored)

def kept (call : Call) : List Rule :=
  Rule.builtIn.filter fun rule => !call.ignored.contains rule.id

theorem analysis_builtIn {call : Call} (builtIn : call.groups = Rule.catalog) (path : String)
    (bytes : ByteArray) :
    call.analysis path bytes = call.kept.flatMap fun rule => reportsOf rule path bytes := by
  have rules : call.engine.rules = call.kept := by
    unfold engine Engine.ofSettings Engine.rules
    simp only [builtIn]
    rfl
  have signs : ∀ rule ∈ call.kept, rule.Signs := by
    intro rule member
    exact Rule.builtIn_signs rule (List.mem_filter.mp member).1
  rw [analysis, rules]
  exact analysis_signs signs call.parser path bytes

theorem mem_analysis {call : Call} (builtIn : call.groups = Rule.catalog) {path : String}
    {bytes : ByteArray} {found : Finding} :
    found ∈ call.analysis path bytes ↔
      ∃ rule ∈ Rule.builtIn, rule.id ∉ call.ignored ∧ found ∈ reportsOf rule path bytes := by
  rw [analysis_builtIn builtIn, List.mem_flatMap]
  simp [kept, and_assoc]

private theorem signed_of_mem_analysis {call : Call} (builtIn : call.groups = Rule.catalog)
    {path : String} {bytes : ByteArray} {found : Finding}
    (member : found ∈ call.analysis path bytes) :
    found.ruleId ∉ call.ignored ∧ found.path = path := by
  obtain ⟨rule, inCatalog, kept, reported⟩ := (mem_analysis builtIn).mp member
  obtain ⟨id, here⟩ := reportsOf_signed (Rule.builtIn_signs rule inCatalog) reported
  rw [id]
  exact ⟨kept, here⟩

private theorem flatMap_filter_congr {α β : Type} {parts : List α} {add : α → List β}
    {here there : α → Bool} (same : ∀ part ∈ parts, add part ≠ [] → here part = there part) :
    (parts.filter here).flatMap add = (parts.filter there).flatMap add := by
  induction parts with
  | nil => rfl
  | cons part parts ih =>
      have rest := ih fun other member => same other (by simp [member])
      by_cases silent : add part = []
      · rw [List.filter_cons, List.filter_cons]
        split <;> split <;> simp only [List.flatMap_cons, silent, List.nil_append, rest]
      · rw [List.filter_cons, List.filter_cons, same part (by simp) silent]
        split
        · rw [List.flatMap_cons, List.flatMap_cons, rest]
        · exact rest

private theorem analysis_congr {call other : Call} (builtIn : call.groups = Rule.catalog)
    (builtIn' : other.groups = Rule.catalog) {fs : FileSystem} {path : String} {bytes : ByteArray}
    (read : fs.read (.ofText path) = .ok bytes) (agrees : call.AgreesOn other fs path) :
    other.analysis path bytes = call.analysis path bytes := by
  rw [analysis_builtIn builtIn, analysis_builtIn builtIn', kept, kept]
  refine flatMap_filter_congr ?_
  intro rule member reports
  have same := agrees bytes read rule member reports
  simp only [List.contains_eq_mem, same]

end Call

theorem Call.fresh_cases (call : Call) (fs : FileSystem) (path : String) :
    (∃ bytes, fs.read (.ofText path) = .ok bytes ∧
      call.engine.fresh fs path = call.analysis path bytes) ∨
    (∀ bytes, fs.read (.ofText path) ≠ .ok bytes) ∧ call.engine.fresh fs path = [] := by
  cases read : fs.read (.ofText path) with
  | ok bytes => exact .inl ⟨bytes, rfl, call.engine.fresh_eq read⟩
  | error e => exact .inr ⟨by simp, call.engine.fresh_unreadable read⟩

section

variable {call : Call} {fs : FileSystem} {paths : List String} {source : String → Call}

private theorem Call.signed_of_mem_fresh (builtIn : call.groups = Rule.catalog) {path : String}
    {found : Finding} (member : found ∈ call.engine.fresh fs path) :
    found.ruleId ∉ call.ignored ∧ found.path = path := by
  obtain ⟨bytes, _, fresh⟩ | ⟨_, fresh⟩ := call.fresh_cases fs path
  · rw [fresh] at member
    exact signed_of_mem_analysis builtIn member
  · rw [fresh] at member
    cases member

/-- If every file is reported as some call would report it, then the ignored rules are honoured
exactly if that call ignores the same of the rules that report something in the file. -/
theorem Call.honours_iff (builtIn : call.groups = Rule.catalog)
    (builtIn' : ∀ path ∈ paths, (source path).groups = Rule.catalog) :
    call.Honours (paths.flatMap fun path => (source path).engine.fresh fs path)
        (paths.flatMap (call.engine.fresh fs)) ↔
      ∀ path ∈ paths, call.AgreesOn (source path) fs path := by
  constructor
  · rintro ⟨noneIgnored, noneMissing⟩ path member bytes read rule inCatalog reports
    have ofSource := (source path).engine.fresh_eq read
    have ofCall := call.engine.fresh_eq read
    obtain ⟨found, reported⟩ := List.exists_mem_of_ne_nil _ reports
    obtain ⟨id, here⟩ := reportsOf_signed (Rule.builtIn_signs rule inCatalog) reported
    constructor
    · intro ignored
      refine Classical.byContradiction fun reportedBySource => ?_
      have inSource : found ∈ (source path).engine.fresh fs path := by
        rw [ofSource]
        exact (mem_analysis (builtIn' path member)).mpr
          ⟨rule, inCatalog, reportedBySource, reported⟩
      have absent := noneIgnored found (List.mem_flatMap.mpr ⟨path, member, inSource⟩)
      rw [id] at absent
      exact absent ignored
    · intro ignoredBySource
      refine Classical.byContradiction fun unignored => ?_
      have inCall : found ∈ call.engine.fresh fs path := by
        rw [ofCall]
        exact (mem_analysis builtIn).mpr ⟨rule, inCatalog, unignored, reported⟩
      have present := noneMissing found (List.mem_flatMap.mpr ⟨path, member, inCall⟩)
      obtain ⟨other, inPaths, inSource⟩ := List.mem_flatMap.mp present
      obtain ⟨absent, there⟩ := signed_of_mem_fresh (builtIn' other inPaths) inSource
      rw [there.symm.trans here, id] at absent
      exact absent ignoredBySource
  · intro agrees
    have same : ∀ path ∈ paths,
        (source path).engine.fresh fs path = call.engine.fresh fs path := by
      intro path member
      obtain ⟨bytes, read, fresh⟩ | ⟨unreadable, fresh⟩ := call.fresh_cases fs path
      · rw [fresh, (source path).engine.fresh_eq read]
        exact analysis_congr builtIn (builtIn' path member) read (agrees path member)
      · obtain ⟨bytes, read, _⟩ | ⟨_, fresh'⟩ := (source path).fresh_cases fs path
        · exact absurd read (unreadable bytes)
        · rw [fresh, fresh']
    rw [List.flatMap_def, List.map_congr_left same, ← List.flatMap_def]
    refine ⟨?_, fun found member => member⟩
    intro found member
    obtain ⟨path, _, inFile⟩ := List.mem_flatMap.mp member
    exact (signed_of_mem_fresh builtIn inFile).1

end

/-- Where the findings of a call come from: in every file it finds what some call of its version,
itself or an earlier one, finds in the file as it is now. -/
structure Call.Sourced (call : Call) (earlier : List Call) (fs : FileSystem) (paths : List String)
    (source : String → Call) (reported uncached : List Finding) : Prop where
  sources : ∀ path ∈ paths, source path = call ∨
    source path ∈ earlier ∧ (source path).version = call.version
  reported : reported = paths.flatMap fun path => (source path).engine.fresh fs path
  uncached : uncached = paths.flatMap (call.engine.fresh fs)

/-- Ignored rules are honoured exactly as far as the cache was filled under the same ones: no ignored
rule is reported, and nothing is missing that would be reported without a cache, exactly if this call
and the one that its findings of a file come from ignore the same of the rules that report something
in the file. -/
theorem ignored_rules_honoured_iff (environment : Settings.Environment) (project : String)
    (start : Scene) (history : List Event) (undisturbed : Undisturbed project start history)
    (builtIn : ∀ call ∈ callsOf history, call.groups = Rule.catalog) :
    ∀ before call later, history = before ++ .scan call :: later →
      let scene := after environment project start before
      let fs := (call.sceneOf scene).fs
      (∃ failure, call.findings environment project scene = .error failure ∧
        call.uncached.findings environment project scene = .error failure) ∨
      ∃ (paths : List String) (source : String → Call) (reported uncached : List Finding),
        call.findings environment project scene = .ok reported ∧
        call.uncached.findings environment project scene = .ok uncached ∧
        call.Sourced (callsOf before) fs paths source reported uncached ∧
        (call.Honours reported uncached ↔ ∀ path ∈ paths, call.AgreesOn (source path) fs path) := by
  intro before call later split scene fs
  have inHistory : callsOf history = callsOf before ++ call :: callsOf later := by
    rw [split, callsOf, List.filterMap_append, List.filterMap_cons]
    rfl
  obtain failed | ⟨paths, served, cached, uncached, accounted⟩ :=
    undisturbed.traced environment split
  · exact .inl failed
  · have sources : ∀ path, ∃ source : Call, path ∈ paths →
        (source = call ∨ source ∈ callsOf before ∧ source.version = call.version) ∧
          served path = source.engine.fresh fs path := by
      intro path
      by_cases member : path ∈ paths
      · obtain fresh | ⟨bytes, read, origin, earlier, version, remembered⟩ := accounted path member
        · exact ⟨call, fun _ => ⟨.inl rfl, fresh⟩⟩
        · refine ⟨origin, fun _ => ⟨.inr ⟨earlier, version⟩, ?_⟩⟩
          rw [remembered, origin.engine.fresh_eq read]
          rfl
      · exact ⟨call, fun inside => absurd inside member⟩
    obtain ⟨source, isSource⟩ := Classical.skolem.mp sources
    have same : paths.flatMap served =
        paths.flatMap fun path => (source path).engine.fresh fs path := by
      rw [List.flatMap_def, List.flatMap_def,
        List.map_congr_left fun path member => (isSource path member).2]
    have catalogs : ∀ path ∈ paths, (source path).groups = Rule.catalog := by
      intro path member
      obtain itself | ⟨earlier, _⟩ := (isSource path member).1
      · rw [itself]
        exact builtIn call (by simp [inHistory])
      · exact builtIn _ (by simp [inHistory, earlier])
    refine .inr ⟨paths, source, _, _, cached, uncached,
      ⟨fun path member => (isSource path member).1, same, rfl⟩, ?_⟩
    rw [same]
    exact Call.honours_iff (builtIn call (by simp [inHistory])) catalogs

/-- A scan that ignores a rule, after one that has not ignored it and has found something with it. -/
theorem ignored_after_unignored :
    let manifest := Text.encode "<application android:debuggable=\"true\"/>"
    let call : Call :=
      { settings := { scan := { ignoredRules := ["ANDROID_DEBUGGABLE_ENABLED"] } } }
    let before : List Event := [.write "/p/a.xml" manifest, .scan {}]
    let scene := after [] "/p" emptyProject before
    let fs := (call.sceneOf scene).fs
    Undisturbed "/p" emptyProject (before ++ [.scan call]) ∧
      (∀ other ∈ callsOf (before ++ [.scan call]), other.groups = Rule.catalog) ∧
      ∃ paths source reported, call.findings [] "/p" scene = .ok reported ∧
        call.uncached.findings [] "/p" scene = .ok [] ∧
        call.Sourced (callsOf before) fs paths source reported [] ∧
        (call.Honours reported [] ↔ ∀ path ∈ paths, call.AgreesOn (source path) fs path) := by
  intro manifest call before scene fs
  have undisturbed : Undisturbed "/p" emptyProject (before ++ [.scan call]) := by
    refine emptyProject_undisturbed manifest ?_ ?_
    · intro event member
      simp only [before, List.cons_append, List.nil_append, List.mem_cons, List.not_mem_nil,
        or_false] at member
      rcases member with rfl | rfl | rfl
      · exact (by decide : rootOf [] "/p/a.xml" ≠ cachePlace ["p"])
      · exact ⟨rfl, by simp⟩
      · exact ⟨rfl, by simp [call]⟩
    · simp [before]
  have builtIn : ∀ other ∈ callsOf (before ++ [.scan call]), other.groups = Rule.catalog := by
    intro other member
    simp only [before, callsOf, List.cons_append, List.nil_append, List.filterMap_cons,
      List.filterMap_nil, Event.call?, List.mem_cons, List.not_mem_nil, or_false] at member
    rcases member with rfl | rfl <;> rfl
  have nothing : (call.uncached.findings [] "/p" scene).toOption.map List.isEmpty =
      some true := by
    decide +kernel
  refine ⟨undisturbed, builtIn, ?_⟩
  obtain ⟨failure, _, failed⟩ | ⟨paths, source, reported, uncached, isReported, isUncached, rest⟩ :=
    ignored_rules_honoured_iff [] "/p" emptyProject _ undisturbed builtIn before call [] rfl
  · rw [failed] at nothing
    cases nothing
  · rw [isUncached] at nothing
    have isEmpty : uncached = [] := by
      simpa [Except.toOption] using nothing
    subst isEmpty
    exact ⟨paths, source, reported, isReported, isUncached, rest⟩

end MobileAudit.Scan
