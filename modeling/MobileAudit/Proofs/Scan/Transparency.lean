import MobileAudit.Proofs.Scan.History

namespace MobileAudit.Scan

open Disk Cache Exclusion

/-! A cache changes no findings, as long as a version stands for its rules and its parser. -/

/-- What the findings of a version depend on. -/
structure Toolset where
  groups : List RuleGroup
  ignored : List String
  parser : SourceParser

def Call.tools (call : Call) : Toolset := ⟨call.groups, call.settings.scan.ignoredRules, call.parser⟩

def Toolset.rules (tools : Toolset) : List Rule :=
  ({ groups := tools.groups, ignored := tools.ignored } : Engine).rules

theorem Call.analysis_eq (call : Call) (path : String) (bytes : ByteArray) :
    call.analysis path bytes = Scan.analysis call.tools.rules call.tools.parser path bytes := rfl

/-- In a history in which all calls of a version have the same rules, ignored rules and parser, every
call finds what it would find without a cache: whatever versions, settings and times the calls have,
whatever becomes of their writes, and whatever happens to the files between them. -/
theorem findings_independent_of_cache (environment : Settings.Environment) (project : String)
    (start : Scene) (history : List Event) (tools : String → Toolset)
    (undisturbed : Undisturbed project start history)
    (versioned : ∀ call ∈ callsOf history, call.tools = tools call.version) :
    ∀ before call later, history = before ++ .scan call :: later →
      let scene := after environment project start before
      call.findings environment project scene =
        call.uncached.findings environment project scene := by
  intro before call later split scene
  have inHistory : callsOf history = callsOf before ++ call :: callsOf later := by
    rw [split, callsOf, List.filterMap_append, List.filterMap_cons]
    rfl
  have versioned' : call.tools = tools call.version :=
    versioned call (by simp [inHistory])
  obtain ⟨failure, cached, uncached⟩ | ⟨paths, served, cached, uncached, accounted⟩ :=
    undisturbed.traced environment split
  · rw [cached, uncached]
  · have fresh : ∀ path ∈ paths,
        served path = call.engine.fresh (call.sceneOf scene).fs path := by
      intro path member
      obtain fresh | ⟨bytes, read, origin, earlier, version, remembered⟩ := accounted path member
      · exact fresh
      · have sameTools : origin.tools = call.tools := by
          rw [versioned', ← version]
          exact versioned origin (by simp [inHistory, earlier])
        rw [remembered, origin.analysis_eq, sameTools, ← call.analysis_eq,
          call.engine.fresh_eq read]
        rfl
    rw [cached, uncached, List.flatMap_def, List.flatMap_def, List.map_congr_left fresh]

/-- A scan of one version, a scan of another one that breaks off in the middle of its first write,
and a third of the first version. -/
theorem findings_after_torn_write :
    let script : Call := { version := "1", groups := [⟨.storage, [everyScript]⟩] }
    let bare : Call :=
      { version := "2", groups := [], clearCache := true, fates := [.torn 7 .nameTooLong] }
    let before : List Event := [.write "/p/a.js" (Text.encode "x"), .scan script, .scan bare, .clock 9]
    let scene := after [] "/p" emptyProject before
    Undisturbed "/p" emptyProject (before ++ [.scan script]) ∧
      (∀ call ∈ callsOf (before ++ [.scan script]),
        call.tools = if call.version = "1" then script.tools else bare.tools) ∧
      script.findings [] "/p" scene = script.uncached.findings [] "/p" scene := by
  intro script bare before scene
  have undisturbed : Undisturbed "/p" emptyProject (before ++ [.scan script]) := by
    refine emptyProject_undisturbed (Text.encode "x") ?_ ?_
    · intro event member
      simp only [before, List.cons_append, List.nil_append, List.mem_cons, List.not_mem_nil,
        or_false] at member
      rcases member with rfl | rfl | rfl | rfl | rfl
      · exact (by decide : rootOf [] "/p/a.js" ≠ cachePlace ["p"])
      · exact ⟨rfl, by simp [script]⟩
      · exact ⟨rfl, by simp [bare]⟩
      · trivial
      · exact ⟨rfl, by simp [script]⟩
    · simp [before]
  have versioned : ∀ call ∈ callsOf (before ++ [.scan script]),
      call.tools = if call.version = "1" then script.tools else bare.tools := by
    intro call member
    simp only [before, callsOf, List.cons_append, List.nil_append, List.filterMap_cons,
      List.filterMap_nil, Event.call?, List.mem_cons, List.not_mem_nil, or_false] at member
    rcases member with rfl | rfl | rfl <;> rfl
  exact ⟨undisturbed, versioned, findings_independent_of_cache [] "/p" emptyProject _
    (fun version => if version = "1" then script.tools else bare.tools) undisturbed versioned before
    script [] rfl⟩

/-- A rule that reports every document once. -/
def everyDocument : Rule where
  id := "EVERY_DOCUMENT"
  description := "A document"
  severity := .low
  fileTypes := [".json"]
  apply := fun context => .ofFindings
    [{ ruleId := "EVERY_DOCUMENT", description := "A document", severity := .low,
       path := context.path }]

/-- A pattern takes the cache file back if it starts with `!` once its blanks are removed.  Then the
emptied cache, which is written before the files are looked for, is one of them. -/
theorem emptied_cache_is_scanned :
    let call : Call :=
      { settings := { scan := { exclude := [" !.mobsentry-cache.json"] } }
        groups := [⟨.storage, [everyDocument]⟩]
        clearCache := true }
    Undisturbed "/p" emptyProject [] ∧
      call.settings.cache.fileName = defaultCacheFile ∧
      (∀ pattern ∈ call.settings.scan.exclude, pattern.toList.head? ≠ some '!') ∧
      call.findings [] "/p" emptyProject ≠ call.uncached.findings [] "/p" emptyProject := by
  intro call
  have cached : ((call.findings [] "/p" emptyProject).toOption.map List.length) = some 1 := by
    decide +kernel
  have uncached : ((call.uncached.findings [] "/p" emptyProject).toOption.map List.length) =
      some 0 := by
    decide +kernel
  refine ⟨emptyProject_undisturbed ByteArray.empty (by simp) (by simp), rfl, ?_, ?_⟩
  · decide
  · intro same
    rw [same, uncached] at cached
    cases cached

end MobileAudit.Scan
