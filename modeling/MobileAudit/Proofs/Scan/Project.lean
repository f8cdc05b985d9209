import MobileAudit.Proofs.Cache.Persistence
import MobileAudit.Proofs.Discovery.CacheFile
import MobileAudit.Proofs.Scan.Schedule
import MobileAudit.Scan.Project

namespace MobileAudit.Scan

open Disk Cache Exclusion

/-! A scan of a project with its cache.  The scan changes nothing on the disk but the cache file, and
what holds of the entries of the cache and of those that the scan adds holds of the cache file
afterwards. -/

def cachePlace (root : List String) : List String := root ++ [defaultCacheFile]

@[simp] theorem child_cacheFile (root : List String) :
    (Path.fromRoot root).child defaultCacheFile = .fromRoot (cachePlace root) := by
  have name : Path.ofText defaultCacheFile = ⟨.relative, [defaultCacheFile]⟩ := by decide
  rw [Path.child, name]
  rfl

@[simp] theorem parent_cachePlace (root : List String) :
    (Path.fromRoot (cachePlace root)).parent = .fromRoot root := by
  simp [Path.parent, Path.fromRoot, cachePlace]

@[simp] theorem name_cachePlace (root : List String) :
    (Path.fromRoot (cachePlace root)).name = defaultCacheFile := by
  simp [Path.name, Path.fromRoot, cachePlace]

private theorem proper_cacheFile : ProperName defaultCacheFile := by decide

theorem proper_cachePlace {root : List String} (proper : ∀ name ∈ root, ProperName name) :
    ∀ name ∈ cachePlace root, ProperName name := by
  intro name member
  obtain above | here := List.mem_append.mp member
  · exact proper name above
  · rw [List.mem_singleton.mp here]
    exact proper_cacheFile

private theorem cachePlace_not_above (root : List String) : ¬ cachePlace root <+: root := by
  intro inside
  have length := inside.length_le
  simp only [cachePlace, List.length_append, List.length_singleton] at length
  omega

theorem hasNull_cachePlace {root : List String} (noNull : (Path.fromRoot root).hasNull = false) :
    (Path.fromRoot (cachePlace root)).hasNull = false := by
  simp only [Path.hasNull, Path.fromRoot, cachePlace, List.any_append, Bool.or_eq_false_iff]
    at noNull ⊢
  exact ⟨noNull, by decide⟩

/-! The disk between scans. -/

/-- A disk of proper names, on which the files have certain contents, except for the cache file of a
project, whose entries fulfil a condition. -/
structure Intact (contents : ByteArray → Prop) (holds : String → Entry → Prop)
    (cwd root : List String) (fs : FileSystem) : Prop where
  proper : fs.disk.Proper
  cwd : fs.cwd = cwd
  contents : ∀ place bytes, place ≠ cachePlace root →
    fs.disk.find? place = some (.file bytes) → contents bytes
  stored : ∀ bytes, fs.disk.find? (cachePlace root) = some (.file bytes) → Stored holds bytes

/-- Two disks that differ at most in the cache file of a project. -/
structure Resaved (holds : String → Entry → Prop) (root : List String)
    (fs fs' : FileSystem) : Prop where
  cwd : fs'.cwd = fs.cwd
  disk : fs'.disk = fs.disk ∨ ∃ content, Stored holds content ∧
    fs'.disk = fs.disk.put (cachePlace root) (.file content)

namespace Intact

variable {contents : ByteArray → Prop} {holds : String → Entry → Prop}
  {cwd root : List String} {fs : FileSystem}

theorem mono {weaker : String → Entry → Prop} (intact : Intact contents holds cwd root fs)
    (implies : ∀ path entry, holds path entry → weaker path entry) :
    Intact contents weaker cwd root fs :=
  ⟨intact.proper, intact.cwd, intact.contents,
    fun bytes found => (intact.stored bytes found).mono implies⟩

theorem put {place : List String} {content : ByteArray} (intact : Intact contents holds cwd root fs)
    (proper : ∀ name ∈ place, ProperName name) (apart : place ≠ cachePlace root)
    (isContent : contents content) :
    Intact contents holds cwd root { fs with disk := fs.disk.put place (.file content) } := by
  refine ⟨intact.proper.put proper (.file content), intact.cwd, ?_, ?_⟩
  · intro other bytes elsewhere found
    obtain ⟨_, rfl⟩ | before := Node.file_of_put found
    · exact isContent
    · exact intact.contents other bytes elsewhere before
  · intro bytes found
    obtain ⟨here, _⟩ | before := Node.file_of_put found
    · exact absurd here.symm apart
    · exact intact.stored bytes before

theorem putEmpty {place : List String} (intact : Intact contents holds cwd root fs)
    (proper : ∀ name ∈ place, ProperName name) :
    Intact contents holds cwd root { fs with disk := fs.disk.put place .empty } := by
  refine ⟨intact.proper.put proper .empty, intact.cwd, ?_, ?_⟩
  · intro other bytes elsewhere found
    exact intact.contents other bytes elsewhere (Node.file_of_put_empty found)
  · intro bytes found
    exact intact.stored bytes (Node.file_of_put_empty found)

theorem erase (place : List String) (intact : Intact contents holds cwd root fs) :
    Intact contents holds cwd root { fs with disk := fs.disk.erase place } := by
  refine ⟨intact.proper.erase, intact.cwd, ?_, ?_⟩
  · intro other bytes elsewhere found
    exact intact.contents other bytes elsewhere (Node.file_of_erase place found)
  · intro bytes found
    exact intact.stored bytes (Node.file_of_erase place found)

theorem resaved {fs' : FileSystem} (intact : Intact contents holds cwd root fs)
    (properRoot : ∀ name ∈ root, ProperName name) (resaved : Resaved holds root fs fs') :
    Intact contents holds cwd root fs' := by
  have cwd := resaved.cwd.trans intact.cwd
  obtain same | ⟨content, isStored, written⟩ := resaved.disk
  · refine ⟨?_, cwd, ?_, ?_⟩ <;> rw [same]
    · exact intact.proper
    · exact intact.contents
    · exact intact.stored
  · refine ⟨?_, cwd, ?_, ?_⟩ <;> rw [written]
    · exact intact.proper.put (proper_cachePlace properRoot) (.file content)
    · intro other bytes elsewhere found
      obtain ⟨here, _⟩ | before := Node.file_of_put found
      · exact absurd here elsewhere
      · exact intact.contents other bytes elsewhere before
    · intro bytes found
      obtain ⟨_, rfl⟩ | before := Node.file_of_put found
      · exact isStored
      · exact intact.stored bytes before

end Intact

namespace Resaved

variable {holds : String → Entry → Prop} {root : List String} {fs fs' : FileSystem}

theorem refl (holds : String → Entry → Prop) (root : List String) (fs : FileSystem) :
    Resaved holds root fs fs := ⟨rfl, .inl rfl⟩

theorem see (resaved : Resaved holds root fs fs') (place : List String)
    (apart : ¬ cachePlace root <+: place) : fs'.disk.see place = fs.disk.see place := by
  obtain same | ⟨content, _, written⟩ := resaved.disk
  · rw [same]
  · rw [written]
    exact Node.see_put _ _ _ place apart

theorem directory {entries : List (String × Node)} (resaved : Resaved holds root fs fs')
    (directory : fs.DirectoryAt (.fromRoot root) entries) :
    ∃ entries', fs'.DirectoryAt (.fromRoot root) entries' :=
  directory.congr resaved.see (cachePlace_not_above root)

theorem walk {entries : List (String × Node)} (resaved : Resaved holds root fs fs')
    (directory : fs.DirectoryAt (.fromRoot root) entries) (excludes : List String)
    (noneBack : ∀ pattern ∈ excludes, reincludes pattern = false) :
    (Discovery.walk fs' excludes (.fromRoot root)).value =
      (Discovery.walk fs excludes (.fromRoot root)).value := by
  obtain same | ⟨content, _, written⟩ := resaved.disk
  · obtain ⟨entries', directory'⟩ := resaved.directory directory
    have found := directory'.found
    rw [same, directory.found] at found
    cases found
    cases whole : firstBreakdown? excludes with
    | some cause => rw [Discovery.walk_broken whole, Discovery.walk_broken whole]
    | none =>
        rw [Discovery.walk_directory directory whole, Discovery.walk_directory directory' whole]
  · exact Discovery.walk_put directory excludes noneBack written

end Resaved

/-! The cache of a project in the course of a scan. -/

/-- The cache of a project for a version, whose entries fulfil a condition. -/
structure Usable (holds : String → Entry → Prop) (root : List String) (version : String)
    (store : Store) : Prop where
  file : store.file = .fromRoot (cachePlace root)
  version : store.version = version
  enabled : store.enabled = true
  keeps : store.ledger.Keeps holds

namespace Usable

variable {contents : ByteArray → Prop} {holds : String → Entry → Prop} {root : List String}
  {version : String} {store : Store}

theorem mono {weaker : String → Entry → Prop} (usable : Usable holds root version store)
    (implies : ∀ path entry, holds path entry → weaker path entry) :
    Usable weaker root version store :=
  ⟨usable.file, usable.version, usable.enabled, usable.keeps.mono implies⟩

theorem clear (usable : Usable holds root version store) (now : Int) :
    Usable holds root version (store.clear now) := by
  obtain ⟨file, version, enabled⟩ := store.clear_fixed now
  exact ⟨file.trans usable.file, version.trans usable.version, enabled.trans usable.enabled,
    Store.keeps_clear usable.keeps now⟩

theorem prune (usable : Usable holds root version store) (now : Int) (existing : List String)
    (maxAgeMs : Int) :
    Usable holds root version (store.prune now existing maxAgeMs).value.1 := by
  obtain ⟨file, version, enabled, sublist⟩ := store.prune_kept now existing maxAgeMs
  exact ⟨file.trans usable.file, version.trans usable.version, enabled.trans usable.enabled,
    usable.keeps.sublist sublist⟩

theorem recordAll (usable : Usable holds root version store) (plan : Plan) (paths : List String)
    (new : ∀ path ∈ paths, ∀ bytes, plan.fs.read (.ofText path) = .ok bytes →
      holds path (plan.entryFor version path bytes)) :
    Usable holds root version (plan.recordAll paths store) := by
  induction paths generalizing store with
  | nil => exact usable
  | cons path paths ih =>
      refine ih ?_ fun other member => new other (by simp [member])
      obtain ⟨file, sameVersion, enabled⟩ := plan.record_fixed store path
      refine ⟨file.trans usable.file, sameVersion.trans usable.version,
        enabled.trans usable.enabled, ?_⟩
      unfold Plan.record
      split
      · rename_i bytes read
        refine Store.keeps_set usable.keeps _ _ _ _ ?_
        rw [usable.version]
        exact new path (by simp) bytes read
      · exact usable.keeps

theorem noEscape (usable : Usable holds root version store)
    (noNull : (Path.fromRoot root).hasNull = false) (fs : FileSystem) (now : Int) :
    (store.save fs now).escaped = none := by
  cases escaped : (store.save fs now).escaped with
  | none => rfl
  | some error =>
      have null := (Store.save_escaped escaped).2
      rw [usable.file, hasNull_cachePlace noNull] at null
      cases null

theorem save (usable : Usable holds root version store)
    (properRoot : ∀ name ∈ root, ProperName name) {fs : FileSystem}
    {entries : List (String × Node)} (directory : fs.DirectoryAt (.fromRoot root) entries)
    (now : Int) :
    Usable holds root version (store.save fs now).store ∧
      Resaved holds root fs (store.save fs now).fs := by
  obtain ⟨file, version, enabled⟩ := store.save_fixed fs now
  have forward : FileSystem.Forward store.file.parts := by
    rw [usable.file]
    exact FileSystem.forward_of_proper (proper_cachePlace properRoot)
  have parent : fs.DirectoryAt store.file.parent entries := by
    rw [usable.file, parent_cachePlace]
    exact directory
  obtain ⟨cwd, outcome⟩ := Store.save_disk now parent forward usable.keeps
  rw [usable.file] at outcome
  exact ⟨⟨file.trans usable.file, version.trans usable.version, enabled.trans usable.enabled,
    usable.keeps.of_files (store.save_files fs now)⟩, cwd, outcome⟩

private theorem servedBy (usable : Usable holds root version store) {path : String}
    {bytes : ByteArray}
    {findings : List Finding} (served : Scan.servedBy (some store) path bytes = some findings) :
    ∃ entry, holds path entry ∧ entry.hash = Fingerprint.ofBytes bytes ∧
      entry.version = version ∧ entry.findings = findings := by
  rw [servedBy_enabled store path bytes usable.enabled] at served
  obtain ⟨entry, valid, rfl⟩ := Option.map_eq_some_iff.mp served
  obtain ⟨found, fits⟩ := Option.filter_eq_some_iff.mp valid
  simp only [Bool.and_eq_true, beq_iff_eq] at fits
  exact ⟨entry, usable.keeps.find? found, fits.1, fits.2.trans usable.version, rfl⟩

end Usable

/-! The steps of a scan. -/

variable {contents : ByteArray → Prop} {holds : String → Entry → Prop} {cwd root : List String}

private theorem Engine.attachCache_usable (engine : Engine) (scene : Scene) (version : String)
    (properRoot : ∀ name ∈ root, ProperName name)
    (stored : ∀ bytes, scene.fs.disk.find? (cachePlace root) = some (.file bytes) →
      Stored holds bytes) :
    ∃ store logs, engine.attachCache scene (.fromRoot root) version defaultCacheFile =
        .ok ⟨{ engine with cache := some store }, logs⟩ ∧ Usable holds root version store := by
  have absolute : (Path.fromRoot (cachePlace root)).isAbsolute = true := rfl
  have forward := FileSystem.forward_of_proper (proper_cachePlace properRoot)
  obtain ⟨read, isRead, keeps⟩ := Store.readLedger_keeps scene.now absolute forward stored
  refine ⟨{ Store.create (.fromRoot root) version defaultCacheFile scene.now with
    ledger := read.value, dirty := false }, read.logs, ?_, child_cacheFile root, rfl, rfl, keeps⟩
  rw [Engine.attachCache, Store.load]
  simp only [Store.create, child_cacheFile, isRead]
  rfl

theorem Engine.prepareCache_enabled (engine : Engine) (scene : Scene) (settings : CacheSettings)
    (version : String) (clear : Bool) {entries : List (String × Node)}
    (enabled : settings.enabled = true) (fileName : settings.fileName = defaultCacheFile)
    (properRoot : ∀ name ∈ root, ProperName name)
    (directory : scene.fs.DirectoryAt (.fromRoot root) entries)
    (stored : ∀ bytes, scene.fs.disk.find? (cachePlace root) = some (.file bytes) →
      Stored holds bytes) :
    ∃ store fs logs, engine.prepareCache scene (.fromRoot root) settings version clear =
        .ok ⟨{ engine with cache := some store }, fs, logs, none⟩ ∧
      Usable holds root version store ∧ Resaved holds root scene.fs fs := by
  obtain ⟨store, logs, attached, usable⟩ :=
    engine.attachCache_usable scene version properRoot stored
  unfold Engine.prepareCache
  rw [fileName, attached]
  simp only [enabled, Bool.not_true, Bool.false_eq_true, if_false]
  cases clear with
  | false => exact ⟨store, scene.fs, logs, rfl, usable, .refl holds root scene.fs⟩
  | true =>
      have emptied := usable.clear scene.now
      obtain ⟨saved, resaved⟩ := emptied.save properRoot directory scene.now
      have noEscape := emptied.noEscape (Discovery.hasNull_of_admissible directory.admitted)
        scene.fs scene.now
      refine ⟨_, _, logs ++ ((store.clear scene.now).save scene.fs scene.now).logs, ?_, saved,
        resaved⟩
      simp only [if_true, Engine.clearCache, Engine.saveCache, Option.map_some, noEscape]

theorem Engine.slots_positive (concurrency : Int) : 0 < Engine.slotsOf concurrency := by
  unfold Engine.slotsOf
  omega

theorem Engine.scanFiles_uncached (engine : Engine) (scene : Scene) (paths : List String)
    (listener : Engine.Listener) (turns : List Nat) (positive : 0 < engine.concurrency)
    (uncached : engine.cache = none) :
    (∃ report, (engine.scanFiles scene paths listener turns).result = .ok report ∧
      report.findings =
        paths.flatMap ((engine.planOf scene paths.length listener).findingsOf none)) ∧
    (engine.scanFiles scene paths listener turns).fs = scene.fs := by
  have complete := engine.follow_completes scene paths listener positive turns
  have reached := reached_follow (engine.planOf scene paths.length listener) paths engine.cache
    (turns ++ Run.drain (engine.planOf scene paths.length listener))
  obtain ⟨recorded, cache, _⟩ := reached.recorded
  have findings := reached.findings complete
  rw [uncached] at cache findings
  constructor
  · obtain reported | ⟨_, store, same, _⟩ := engine.conclude_result scene
      ((Run.start paths engine.cache).follow (engine.planOf scene paths.length listener)
        (turns ++ Run.drain (engine.planOf scene paths.length listener))) paths.length
    · refine ⟨_, reported, ?_⟩
      rw [uncached]
      exact findings
    · rw [uncached, cache] at same
      cases same
  · unfold Engine.scanFiles Engine.conclude Engine.saveCache
    simp only [uncached, cache, Option.map_none]

private theorem Engine.scanFiles_cached (engine : Engine) (scene : Scene) (paths : List String)
    (listener : Engine.Listener) (turns : List Nat) (positive : 0 < engine.concurrency)
    {version : String} {store : Store} {entries : List (String × Node)}
    (cached : engine.cache = some store) (usable : Usable holds root version store)
    (properRoot : ∀ name ∈ root, ProperName name)
    (directory : scene.fs.DirectoryAt (.fromRoot root) entries)
    (new : ∀ path ∈ paths, ∀ bytes, scene.fs.read (.ofText path) = .ok bytes →
      holds path ((engine.planOf scene paths.length listener).entryFor version path bytes)) :
    (∃ report, (engine.scanFiles scene paths listener turns).result = .ok report ∧
      report.findings = paths.flatMap
        ((engine.planOf scene paths.length listener).findingsOf (some store))) ∧
    Resaved holds root scene.fs (engine.scanFiles scene paths listener turns).fs := by
  have complete := engine.follow_completes scene paths listener positive turns
  have reached := reached_follow (engine.planOf scene paths.length listener) paths engine.cache
    (turns ++ Run.drain (engine.planOf scene paths.length listener))
  have findings := reached.findings complete
  obtain ⟨recorded, cache, analysed⟩ := reached.recorded
  have inside : ∀ path ∈ recorded, path ∈ paths := by
    intro path member
    obtain ⟨task, inRun, rfl, _⟩ := (analysed path).mp member
    rw [← reached.paths]
    exact List.mem_map.mpr ⟨task, inRun, rfl⟩
  have final : Usable holds root version
      ((engine.planOf scene paths.length listener).recordAll recorded store) :=
    usable.recordAll _ recorded fun path member => new path (inside path member)
  have noNull := Discovery.hasNull_of_admissible directory.admitted
  have resaved := (final.save properRoot directory scene.now).2
  have noEscape := final.noEscape noNull scene.fs scene.now
  rw [cached, Option.map_some] at cache
  rw [cached] at findings
  unfold Engine.scanFiles Engine.conclude Engine.saveCache
  simp only [cached, cache, noEscape]
  exact ⟨⟨_, rfl, findings⟩, resaved⟩

def Engine.fresh (engine : Engine) (fs : FileSystem) (path : String) : List Finding :=
  ((fs.read (.ofText path)).toOption.map (analysis engine.rules engine.parser path)).getD []

theorem Engine.fresh_eq (engine : Engine) {fs : FileSystem} {path : String} {bytes : ByteArray}
    (read : fs.read (.ofText path) = .ok bytes) :
    engine.fresh fs path = analysis engine.rules engine.parser path bytes := by
  rw [Engine.fresh, read]
  rfl

theorem Engine.fresh_unreadable (engine : Engine) {fs : FileSystem} {path : String}
    {error : DiskError} (failed : fs.read (.ofText path) = .error error) :
    engine.fresh fs path = [] := by
  rw [Engine.fresh, failed]
  rfl

theorem Engine.findingsOf_none (engine : Engine) (scene : Scene) (total : Nat)
    (listener : Engine.Listener) :
    (engine.planOf scene total listener).findingsOf none = engine.fresh scene.fs := by
  funext path
  unfold Plan.findingsOf Engine.fresh Engine.planOf
  simp only [servedBy_none, Option.getD_none]
  cases scene.fs.read (.ofText path) <;> rfl

private theorem Usable.findingsOf {version : String} {store : Store}
    (usable : Usable holds root version store) (engine : Engine) (scene : Scene) (total : Nat)
    (listener : Engine.Listener) (path : String) :
    (engine.planOf scene total listener).findingsOf (some store) path =
        engine.fresh scene.fs path ∨
      ∃ bytes entry, scene.fs.read (.ofText path) = .ok bytes ∧ holds path entry ∧
        entry.hash = Fingerprint.ofBytes bytes ∧ entry.version = version ∧
        entry.findings = (engine.planOf scene total listener).findingsOf (some store) path := by
  cases read : (engine.planOf scene total listener).fs.read (.ofText path) with
  | error e =>
      left
      have failed : scene.fs.read (.ofText path) = .error e := read
      rw [engine.fresh_unreadable failed]
      refine Plan.findingsOf_unreadable ?_ (some store)
      rw [Plan.readable, read]
      rfl
  | ok bytes =>
      have succeeded : scene.fs.read (.ofText path) = .ok bytes := read
      rw [engine.fresh_eq succeeded, Plan.findingsOf_eq read]
      cases served : Scan.servedBy (some store) path bytes with
      | none =>
          rw [Option.getD_none]
          exact .inl rfl
      | some findings =>
          rw [Option.getD_some]
          obtain ⟨entry, found⟩ := usable.servedBy served
          exact .inr ⟨bytes, entry, succeeded, found⟩

theorem Engine.prepareCache_disabled (engine : Engine) (scene : Scene) (root : Path)
    {settings : CacheSettings} (disabled : settings.enabled = false) (version : String)
    (clear : Bool) :
    engine.prepareCache scene root settings version clear = .ok ⟨engine, scene.fs, [], none⟩ := by
  rw [Engine.prepareCache, if_pos (by rw [disabled]; rfl)]

theorem Engine.discoveryExcludes_uncached {engine : Engine} (uncached : engine.cache = none) :
    engine.discoveryExcludes = engine.excluded := by
  unfold Engine.discoveryExcludes
  simp only [uncached]

theorem Engine.discover_value (engine : Engine) (fs : FileSystem) (root : Path) (shown : String) :
    (engine.discover fs root shown).value =
      (Discovery.walk fs engine.discoveryExcludes root).value := by
  unfold Engine.discover
  cases walked : (Discovery.walk fs engine.discoveryExcludes root).value with
  | error failure => simp only [walked]
  | ok group => simp only [walked]

theorem Engine.scanRoot_unfound {engine prepared : Engine} {scene : Scene} {root : Path}
    {settings : CacheSettings} {version : String} {clear : Bool} {fs : FileSystem}
    {logs : List Diagnostic} {failure : Discovery.Failure}
    (ready : engine.prepareCache scene root settings version clear =
      .ok ⟨prepared, fs, logs, none⟩)
    (failed : (prepared.discover fs root root.text).value = .error failure)
    (listener : Engine.Listener) (turns : List Nat) :
    (engine.scanRoot scene root settings version clear listener turns).result =
        .error (.ofDiscovery failure) ∧
      (engine.scanRoot scene root settings version clear listener turns).tasks = [] ∧
      (engine.scanRoot scene root settings version clear listener turns).fs = fs := by
  unfold Engine.scanRoot
  simp only [ready, failed, and_self]

/-- A scan of a project without a cache reports what the rules find in its files, and changes
nothing on the disk. -/
theorem Engine.scanRoot_uncached (engine : Engine) (scene : Scene) (settings : CacheSettings)
    (version : String) (clear : Bool) (listener : Engine.Listener) (turns : List Nat)
    (positive : 0 < engine.concurrency) (uncached : engine.cache = none)
    (disabled : settings.enabled = false) {group : FileGroup}
    (walked : (Discovery.walk scene.fs engine.excluded (.fromRoot root)).value = .ok group) :
    (∃ report, (engine.scanRoot scene (.fromRoot root) settings version clear listener
        turns).result = .ok report ∧
      report.findings = group.all.flatMap (engine.fresh scene.fs)) ∧
    (engine.scanRoot scene (.fromRoot root) settings version clear listener turns).fs =
      scene.fs := by
  have prepared := engine.prepareCache_disabled scene (.fromRoot root) disabled version clear
  have found : (engine.discover scene.fs (.fromRoot root) (Path.fromRoot root).text).value =
      .ok group := by
    rw [engine.discover_value, Engine.discoveryExcludes_uncached uncached, walked]
  have pruned : engine.pruneCache scene.now group.all settings.maxAgeMs = ⟨engine, []⟩ := by
    rw [Engine.pruneCache, uncached]
  unfold Engine.scanRoot
  simp only [prepared, found, pruned]
  have scanned := engine.scanFiles_uncached scene group.all listener turns positive uncached
  rw [engine.findingsOf_none] at scanned
  exact scanned

theorem Engine.scanRoot_uncached_failed (engine : Engine) (scene : Scene)
    (settings : CacheSettings) (version : String) (clear : Bool) (listener : Engine.Listener)
    (turns : List Nat) (uncached : engine.cache = none) (disabled : settings.enabled = false)
    {failure : Discovery.Failure}
    (failed : (Discovery.walk scene.fs engine.excluded (.fromRoot root)).value = .error failure) :
    (engine.scanRoot scene (.fromRoot root) settings version clear listener turns).result =
        .error (.ofDiscovery failure) ∧
      (engine.scanRoot scene (.fromRoot root) settings version clear listener turns).fs =
        scene.fs := by
  have ready := engine.prepareCache_disabled scene (.fromRoot root) disabled version clear
  have unfound : (engine.discover scene.fs (.fromRoot root) (Path.fromRoot root).text).value =
      .error failure := by
    rw [engine.discover_value, Engine.discoveryExcludes_uncached uncached, failed]
  obtain ⟨result, _, fs⟩ := Engine.scanRoot_unfound ready unfound listener turns
  exact ⟨result, fs⟩

theorem Usable.discover {version : String} {store : Store}
    (usable : Usable holds root version store) (engine : Engine) {fs fs' : FileSystem}
    {entries : List (String × Node)} (directory : fs.DirectoryAt (.fromRoot root) entries)
    (resaved : Resaved holds root fs fs')
    (noneBack : ∀ pattern ∈ engine.excluded, reincludes pattern = false) (shown : String) :
    ({ engine with cache := some store }.discover fs' (.fromRoot root) shown).value =
      (Discovery.walk fs engine.excluded (.fromRoot root)).value := by
  have same : { engine with cache := some store }.discoveryExcludes = engine.excluded := by
    unfold Engine.discoveryExcludes
    simp only [usable.file, name_cachePlace, beq_self_eq_true, if_true]
  rw [Engine.discover_value, same, resaved.walk directory engine.excluded noneBack]

/-- If no files are found then a scan with a cache fails as well, and leaves a disk behind on which
the cache is as good as before. -/
theorem Engine.scanRoot_cached_failed (engine : Engine) (scene : Scene)
    (settings : CacheSettings) (version : String) (clear : Bool) (listener : Engine.Listener)
    (turns : List Nat) (enabled : settings.enabled = true)
    (fileName : settings.fileName = defaultCacheFile)
    (noneBack : ∀ pattern ∈ engine.excluded, reincludes pattern = false)
    (properRoot : ∀ name ∈ root, ProperName name) {entries : List (String × Node)}
    (directory : scene.fs.DirectoryAt (.fromRoot root) entries)
    (intact : Intact contents holds cwd root scene.fs) {failure : Discovery.Failure}
    (failed : (Discovery.walk scene.fs engine.excluded (.fromRoot root)).value = .error failure) :
    (engine.scanRoot scene (.fromRoot root) settings version clear listener turns).result =
        .error (.ofDiscovery failure) ∧
      Intact contents holds cwd root
        (engine.scanRoot scene (.fromRoot root) settings version clear listener turns).fs := by
  obtain ⟨store, fs, logs, ready, usable, resaved⟩ := engine.prepareCache_enabled scene settings
    version clear enabled fileName properRoot directory intact.stored
  have unfound := usable.discover engine directory resaved noneBack (Path.fromRoot root).text
  rw [failed] at unfound
  obtain ⟨result, _, same⟩ := Engine.scanRoot_unfound ready unfound listener turns
  rw [same]
  exact ⟨result, intact.resaved properRoot resaved⟩

/-- A scan of a project with its cache reports of every file either what the rules find in it or what
an entry for its content holds that the cache had before. -/
theorem Engine.scanRoot_cached {weaker : String → Entry → Prop} (engine : Engine) (scene : Scene)
    (settings : CacheSettings) (version : String) (clear : Bool) (listener : Engine.Listener)
    (turns : List Nat) (positive : 0 < engine.concurrency) (enabled : settings.enabled = true)
    (fileName : settings.fileName = defaultCacheFile)
    (noneBack : ∀ pattern ∈ engine.excluded, reincludes pattern = false)
    (properRoot : ∀ name ∈ root, ProperName name) {entries : List (String × Node)}
    (directory : scene.fs.DirectoryAt (.fromRoot root) entries)
    (intact : Intact contents holds cwd root scene.fs)
    (implies : ∀ path entry, holds path entry → weaker path entry)
    (new : ∀ path bytes, contents bytes → weaker path
      ⟨Fingerprint.ofBytes bytes, analysis engine.rules engine.parser path bytes, scene.now,
        version⟩)
    {group : FileGroup}
    (walked : (Discovery.walk scene.fs engine.excluded (.fromRoot root)).value = .ok group) :
    (∃ report served, (engine.scanRoot scene (.fromRoot root) settings version clear listener
        turns).result = .ok report ∧
      report.findings = group.all.flatMap served ∧
      ∀ path ∈ group.all, served path = engine.fresh scene.fs path ∨
        ∃ bytes entry, scene.fs.read (.ofText path) = .ok bytes ∧ contents bytes ∧
          holds path entry ∧ entry.hash = Fingerprint.ofBytes bytes ∧ entry.version = version ∧
          entry.findings = served path) ∧
    Intact contents weaker cwd root (engine.scanRoot scene (.fromRoot root) settings version clear
      listener turns).fs := by
  obtain ⟨store, fs, logs, prepared, usable, resaved⟩ := engine.prepareCache_enabled scene settings
    version clear enabled fileName properRoot directory intact.stored
  obtain ⟨entries', directory'⟩ := resaved.directory directory
  have found := (usable.discover engine directory resaved noneBack (Path.fromRoot root).text).trans
    walked
  have pruned : Usable holds root version
      (store.prune scene.now group.all settings.maxAgeMs).value.1 := usable.prune _ _ _
  have reads : ∀ path ∈ group.all,
      fs.read (.ofText path) = scene.fs.read (.ofText path) ∧
        ∀ bytes, scene.fs.read (.ofText path) = .ok bytes → contents bytes := by
    intro path member
    obtain ⟨place, isPlace, proper, apart⟩ := Discovery.path_of_mem_all directory intact.proper
      properRoot engine.excluded noneBack walked member
    have forward := FileSystem.forward_of_proper proper
    rw [isPlace]
    refine ⟨FileSystem.read_congr resaved.see rfl forward apart, ?_⟩
    intro bytes read
    refine intact.contents place bytes ?_ (FileSystem.find?_of_read rfl forward read)
    rintro rfl
    exact apart (List.prefix_refl _)
  have scanned := { engine with
    cache := some (store.prune scene.now group.all settings.maxAgeMs).value.1 }.scanFiles_cached
      ⟨fs, scene.now⟩ group.all listener turns positive rfl (pruned.mono implies) properRoot
      directory' (by
        intro path member bytes read
        rw [(reads path member).1] at read
        exact new path bytes ((reads path member).2 bytes read))
  obtain ⟨⟨report, reported, findings⟩, saved⟩ := scanned
  unfold Engine.scanRoot
  simp only [prepared, found, Engine.pruneCache]
  refine ⟨⟨report, _, reported, findings, ?_⟩,
    ((intact.resaved properRoot resaved).mono implies).resaved properRoot saved⟩
  intro path member
  obtain ⟨same, areContents⟩ := reads path member
  have accounted := pruned.findingsOf { engine with
      cache := some (store.prune scene.now group.all settings.maxAgeMs).value.1 }
    ⟨fs, scene.now⟩ group.all.length listener path
  simp only [same] at accounted
  obtain fresh | ⟨bytes, entry, read, remembered⟩ := accounted
  · left
    rw [fresh, Engine.fresh, Engine.fresh, same]
    rfl
  · exact .inr ⟨bytes, entry, read, areContents bytes read, remembered⟩

end MobileAudit.Scan
