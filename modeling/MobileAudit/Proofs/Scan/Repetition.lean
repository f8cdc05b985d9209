import MobileAudit.Proofs.Cache.Cleanness
import MobileAudit.Proofs.Scan.Accounting
import MobileAudit.Proofs.Scan.Completion
import MobileAudit.Proofs.Scan.History

namespace MobileAudit

open Disk

/-! Scans that are repeated.  A scan leaves an entry for every file that it could read, and if its
cache has been saved, the next scan finds all of them, neither drops nor adds any and writes
nothing. -/

namespace Cache.Store

variable {holds : String → Entry → Prop}

/-- An entry for a file that exists, which is not too old. -/
def Lasts (existing : List String) (cutoff : Int) (path : String) (entry : Entry) : Prop :=
  path ∈ existing ∧ cutoff ≤ entry.timestamp

theorem isStale_eq_false {existing : List String} {cutoff : Int} {path : String} {entry : Entry} :
    isStale existing cutoff path entry = false ↔ Lasts existing cutoff path entry := by
  rw [isStale, Bool.or_eq_false_iff, Bool.not_eq_false', List.contains_iff_mem,
    decide_eq_false_iff_not, Int.not_lt]
  rfl

private theorem prune_lasts {store : Store} (keeps : store.ledger.Keeps holds)
    (enabled : store.enabled = true) (now : Int) (existing : List String) (maxAgeMs : Int) :
    (store.prune now existing maxAgeMs).value.1.ledger.Keeps
      (Lasts existing (now - maxAgeMs)) := by
  have sublist := (store.prune_kept now existing maxAgeMs).2.2.2
  refine ⟨(keeps.sublist sublist).distinct, ?_⟩
  intro file member
  rw [← isStale_eq_false]
  unfold prune at member
  simp only [enabled, Bool.not_true, Bool.false_eq_true, if_false,
    List.partition_eq_filter_filter] at member
  split at member
  · rename_i none
    rw [List.isEmpty_iff, List.filter_eq_nil_iff] at none
    exact Bool.eq_false_iff.mpr (none file member)
  · simpa using (List.mem_filter.mp member).2

private theorem prune_of_lasts {store : Store} {now : Int} {existing : List String} {maxAgeMs : Int}
    (lasts : store.ledger.Keeps (Lasts existing (now - maxAgeMs))) :
    (store.prune now existing maxAgeMs).value.1 = store := by
  have none : (store.ledger.files.filter fun file =>
      isStale existing (now - maxAgeMs) file.1 file.2) = [] := by
    rw [List.filter_eq_nil_iff]
    intro file member
    exact Bool.eq_false_iff.mp (isStale_eq_false.mpr (lasts.entries _ member))
  unfold prune
  split
  · rfl
  · simp only [List.partition_eq_filter_filter, none, List.isEmpty_nil, if_true]

end Cache.Store

namespace Scan

open Cache Exclusion

/-! The cache in the course of a scan. -/

/-- The cache of a project, in step with its file. -/
structure InStep (root : List String) (version : String) (store : Store) (fs : FileSystem)
    (now : Int) : Prop where
  file : store.file = .fromRoot (cachePlace root)
  version : store.version = version
  enabled : store.enabled = true
  synced : Session.Synced ⟨store, fs, now⟩

/-- The condition on entries that loading and saving need. -/
def EntryFits (_ : String) (entry : Entry) : Prop := entry.fits = true

namespace InStep

variable {root : List String} {version : String} {store : Store} {fs : FileSystem} {now : Int}

theorem usable (inStep : InStep root version store fs now) :
    Usable EntryFits root version store :=
  ⟨inStep.file, inStep.version, inStep.enabled, inStep.synced.sound.keeps⟩

private theorem loaded {read : Logged Ledger} (fitsNow : Number.fitsDecimal now = true)
    (isRead : Store.readLedger fs now (.fromRoot (cachePlace root)) = .ok read) :
    InStep root version ⟨.fromRoot (cachePlace root), version, read.value, false, true⟩ fs now :=
  ⟨rfl, rfl, rfl, ⟨Store.sound_of_readLedger fitsNow isRead, fitsNow,
    fun _ later => Store.readLedger_later isRead later⟩⟩

private theorem clear (inStep : InStep root version store fs now) :
    InStep root version (store.clear now) fs now := by
  have usable := inStep.usable.clear now
  exact ⟨usable.file, usable.version, usable.enabled, inStep.synced.apply .clear rfl⟩

private theorem prune (inStep : InStep root version store fs now) (existing : List String)
    (maxAgeMs : Int) :
    InStep root version (store.prune now existing maxAgeMs).value.1 fs now := by
  have usable := inStep.usable.prune now existing maxAgeMs
  exact ⟨usable.file, usable.version, usable.enabled,
    inStep.synced.apply (.prune existing maxAgeMs) rfl⟩

theorem save (inStep : InStep root version store fs now)
    (properRoot : ∀ name ∈ root, ProperName name) {entries : List (String × Node)}
    (directory : fs.DirectoryAt (.fromRoot root) entries) :
    InStep root version (store.save fs now).store (store.save fs now).fs now ∧
      Resaved EntryFits root fs (store.save fs now).fs := by
  obtain ⟨usable, resaved⟩ := inStep.usable.save properRoot directory now
  exact ⟨⟨usable.file, usable.version, usable.enabled,
    inStep.synced.apply (.save fs.fates) rfl⟩, resaved⟩

private theorem recordAll (inStep : InStep root version store fs now) {plan : Plan}
    (isNow : plan.now = now) (paths : List String)
    (fits : ∀ path bytes, (analysis plan.rules plan.parser path bytes).all Finding.fits = true) :
    InStep root version (plan.recordAll paths store) fs now := by
  induction paths generalizing store with
  | nil => exact inStep
  | cons path paths ih =>
      refine ih ?_
      obtain ⟨file, sameVersion, enabled⟩ := plan.record_fixed store path
      refine ⟨file.trans inStep.file, sameVersion.trans inStep.version,
        enabled.trans inStep.enabled, ?_⟩
      unfold Plan.record
      split
      · rw [isNow]
        exact inStep.synced.changed (store.set_changes path _ inStep.synced.clock (fits path _))
      · exact inStep.synced

end InStep

/-! Scans of files. -/

/-- What a scan of distinct files reports and leaves that begins with a cache.  Remembered are the
files that could be read and for whose content the cache had no entry. -/
structure Settled (plan : Plan) (paths : List String) (store : Store) (ended : Ended)
    (report : ScanReport) (recorded : List String) : Prop where
  remembered : ∀ path, path ∈ recorded ↔
    path ∈ paths ∧ plan.readable path = true ∧ plan.isServed (some store) path = false
  result : ended.result = .ok report
  findings : report.findings = paths.flatMap (plan.findingsOf (some store))
  scanned : report.scannedFiles = paths.length
  skipped : report.skippedFiles = countOf (paths.countP fun path => !plan.readable path)
  cached : report.cachedFiles = countOf (paths.countP (plan.isServed (some store)))
  cache : ended.engine.cache =
    some ((plan.recordAll recorded store).save plan.fs plan.now).store
  fs : ended.fs = ((plan.recordAll recorded store).save plan.fs plan.now).fs

private theorem Engine.scanFiles_settled (engine : Engine) (scene : Scene) {paths : List String}
    (listener : Engine.Listener) (turns : List Nat) (positive : 0 < engine.concurrency)
    {store : Store} (cached : engine.cache = some store) (distinct : paths.Nodup)
    (noNull : store.file.hasNull = false) :
    ∃ report recorded, Settled (engine.planOf scene paths.length listener) paths store
      (engine.scanFiles scene paths listener turns) report recorded := by
  let plan := engine.planOf scene paths.length listener
  have complete := engine.follow_completes scene paths listener positive turns
  have reached := reached_follow plan paths engine.cache (turns ++ Run.drain plan)
  obtain ⟨recorded, cache, analysed⟩ := reached.recorded
  have ends : engine.scanFiles scene paths listener turns = engine.conclude scene
      ((Run.start paths engine.cache).follow plan (turns ++ Run.drain plan)) paths.length := rfl
  generalize (Run.start paths engine.cache).follow plan (turns ++ Run.drain plan) = run
    at complete reached cache analysed ends
  rw [cached] at reached cache
  rw [Option.map_some] at cache
  have noEscape : ((plan.recordAll recorded store).save scene.fs scene.now).escaped = none := by
    cases escaped : ((plan.recordAll recorded store).save scene.fs scene.now).escaped with
    | none => rfl
    | some error =>
        have null := (Store.save_escaped escaped).2
        rw [(plan.recordAll_fixed recorded store).1, noNull] at null
        cases null
  refine ⟨Engine.reportOf run paths.length, recorded, ?_⟩
  rw [ends]
  constructor
  · intro path
    rw [analysed path, reached.recorded_iff complete path]
  · unfold Engine.conclude Engine.saveCache
    simp only [cache, noEscape]
  · exact reached.findings complete
  · rfl
  · exact congrArg countOf (reached.skipped_count complete)
  · exact congrArg countOf (reached.cached_count complete distinct)
  · exact engine.conclude_cache scene run paths.length cache
  · unfold Engine.conclude Engine.saveCache
    simp only [cache, noEscape]
    rfl

private theorem servedBy_congr {store other : Store} (enabled : store.enabled = true)
    (otherEnabled : other.enabled = true) (version : other.version = store.version)
    (files : other.ledger.files = store.ledger.files) (path : String) (bytes : ByteArray) :
    servedBy (some other) path bytes = servedBy (some store) path bytes := by
  rw [servedBy_enabled other path bytes otherEnabled, servedBy_enabled store path bytes enabled,
    version, files]

namespace Settled

variable {plan again : Plan} {paths recorded recorded' : List String} {store other : Store}
  {ended ended' : Ended} {report report' : ScanReport}

/-- After a scan, the cache serves what the scan has found in every file that can be read. -/
theorem servedBy (settled : Settled plan paths store ended report recorded)
    (enabled : store.enabled = true) {path : String} (member : path ∈ paths) {bytes : ByteArray}
    (read : plan.fs.read (.ofText path) = .ok bytes) :
    Scan.servedBy (some (plan.recordAll recorded store)) path bytes =
      some (plan.findingsOf (some store) path) := by
  have served := servedBy_recordAll plan (some store) recorded path bytes read
  rw [Option.map_some, activeStore?_enabled enabled, Option.isSome_some] at served
  rw [served, Plan.findingsOf_eq read]
  have isServed := Plan.isServed_eq read (some store)
  have remembered := settled.remembered path
  rw [Plan.readable_of_read read, isServed] at remembered
  cases before : Scan.servedBy (some store) path bytes with
  | none =>
      rw [before] at remembered
      rw [if_pos ⟨remembered.mpr ⟨member, rfl, rfl⟩, rfl⟩, Option.getD_none]
  | some findings =>
      rw [before] at remembered
      rw [if_neg fun inside => Bool.noConfusion (remembered.mp inside.1).2.2, Option.getD_some]

variable (settled : Settled plan paths store ended report recorded)
  (repeated : Settled again paths other ended' report' recorded')
  (enabled : store.enabled = true) (otherEnabled : other.enabled = true)
  (version : other.version = store.version)
  (files : other.ledger.files = (plan.recordAll recorded store).ledger.files)
  (reads : ∀ path ∈ paths, again.fs.read (.ofText path) = plan.fs.read (.ofText path))

include settled enabled otherEnabled version files reads

/-- A scan with the cache that another has left finds in every file what that has found, and serves
it from the cache if the file can be read. -/
theorem again_served {path : String} (member : path ∈ paths) :
    again.isServed (some other) path = plan.readable path ∧
      again.findingsOf (some other) path = plan.findingsOf (some store) path := by
  cases read : plan.fs.read (.ofText path) with
  | error error =>
      have failed := (reads path member).trans read
      have unreadable : plan.readable path = false := by
        rw [Plan.readable, read]
        rfl
      rw [unreadable, Plan.findingsOf_unreadable unreadable, Plan.isServed, Plan.findingsOf, failed]
      exact ⟨rfl, rfl⟩
  | ok bytes =>
      obtain ⟨_, sameVersion, sameEnabled⟩ := plan.recordAll_fixed recorded store
      have served := settled.servedBy enabled member read
      rw [← servedBy_congr (sameEnabled.trans enabled) otherEnabled
        (version.trans sameVersion.symm) files path bytes] at served
      have readAgain := (reads path member).trans read
      rw [Plan.isServed_eq readAgain, Plan.findingsOf_eq readAgain, served,
        Plan.readable_of_read read]
      exact ⟨rfl, rfl⟩

include repeated

private theorem again_recorded : recorded' = [] := by
  rw [List.eq_nil_iff_forall_not_mem]
  intro path inside
  obtain ⟨member, readable, unserved⟩ := (repeated.remembered path).mp inside
  rw [(again_served settled enabled otherEnabled version files reads member).1] at unserved
  rw [Plan.readable, reads path member] at readable
  rw [Plan.readable, readable] at unserved
  cases unserved

private theorem again_report :
    report'.findings = report.findings ∧ report'.scannedFiles = report.scannedFiles ∧
      report'.skippedFiles = report.skippedFiles ∧
      report'.cachedFiles = countOf (paths.countP plan.readable) := by
  have served := fun path (member : path ∈ paths) =>
    again_served settled enabled otherEnabled version files reads member
  refine ⟨?_, repeated.scanned.trans settled.scanned.symm, ?_, ?_⟩
  · rw [repeated.findings, settled.findings, List.flatMap_def, List.flatMap_def,
      List.map_congr_left fun path member => (served path member).2]
  · rw [repeated.skipped, settled.skipped]
    refine congrArg countOf (List.countP_congr fun path member => ?_)
    rw [Plan.readable, Plan.readable, reads path member]
  · rw [repeated.cached]
    refine congrArg countOf (List.countP_congr fun path member => ?_)
    rw [(served path member).1]

end Settled

/-! Scans of projects. -/

section

variable {scene : Scene} {root : List String} {entries : List (String × Node)}
  {settings : CacheSettings} {group : FileGroup}
  (enabled : settings.enabled = true) (fileName : settings.fileName = defaultCacheFile)
  (properRoot : ∀ name ∈ root, ProperName name)
  (directory : scene.fs.DirectoryAt (.fromRoot root) entries)

include enabled fileName in
theorem Engine.prepareCache_kept (engine : Engine) (version : String) {read : Logged Ledger}
    (isRead : Store.readLedger scene.fs scene.now (.fromRoot (cachePlace root)) = .ok read) :
    engine.prepareCache scene (.fromRoot root) settings version false =
      .ok ⟨{ engine with
        cache := some ⟨.fromRoot (cachePlace root), version, read.value, false, true⟩ },
        scene.fs, read.logs, none⟩ := by
  rw [← child_cacheFile] at isRead
  have attached := engine.attachCache_ok version isRead
  rw [child_cacheFile] at attached
  unfold Engine.prepareCache
  simp only [enabled, fileName, attached, Bool.not_true, Bool.false_eq_true, if_false]

include enabled fileName properRoot directory in
private theorem Engine.prepareCache_inStep (engine : Engine) (version : String) (clear : Bool)
    (fitsNow : Number.fitsDecimal scene.now = true) {read : Logged Ledger}
    (isRead : Store.readLedger scene.fs scene.now (.fromRoot (cachePlace root)) = .ok read) :
    ∃ store fs logs, engine.prepareCache scene (.fromRoot root) settings version clear =
        .ok ⟨{ engine with cache := some store }, fs, logs, none⟩ ∧
      InStep root version store fs scene.now ∧ Resaved EntryFits root scene.fs fs := by
  have inStep : InStep root version ⟨.fromRoot (cachePlace root), version, read.value, false,
    true⟩ scene.fs scene.now := .loaded fitsNow isRead
  have kept := engine.prepareCache_kept enabled fileName version isRead
  cases clear with
  | false => exact ⟨_, _, _, kept, inStep, .refl EntryFits root scene.fs⟩
  | true =>
      have emptied := inStep.clear
      obtain ⟨saved, resaved⟩ := emptied.save properRoot directory
      have noEscape := emptied.usable.noEscape
        (Discovery.hasNull_of_admissible directory.admitted) scene.fs scene.now
      rw [← child_cacheFile] at isRead
      have attached := engine.attachCache_ok version isRead
      rw [child_cacheFile] at attached
      refine ⟨_, _, read.logs ++ (Store.save scene.fs scene.now (Store.clear
        ⟨.fromRoot (cachePlace root), version, read.value, false, true⟩ scene.now)).logs, ?_, saved,
        resaved⟩
      unfold Engine.prepareCache
      simp only [enabled, fileName, attached, Bool.not_true, Bool.false_eq_true, if_false, if_true,
        Engine.clearCache, Engine.saveCache, Option.map_some, noEscape]

theorem Engine.scanRoot_settled (engine : Engine) {version : String} {clear : Bool} {store : Store}
    {fs : FileSystem} {logs : List Diagnostic} (positive : 0 < engine.concurrency)
    (ready : engine.prepareCache scene (.fromRoot root) settings version clear =
      .ok ⟨{ engine with cache := some store }, fs, logs, none⟩)
    (usable : Usable EntryFits root version store)
    (noNull : (Path.fromRoot root).hasNull = false)
    (walked : (Discovery.walk fs engine.excluded (.fromRoot root)).value = .ok group)
    (distinct : group.all.Nodup) (listener : Engine.Listener) (turns : List Nat) :
    ∃ report recorded, Settled (engine.planOf ⟨fs, scene.now⟩ group.all.length listener) group.all
      (store.prune scene.now group.all settings.maxAgeMs).value.1
      (engine.scanRoot scene (.fromRoot root) settings version clear listener turns) report
      recorded := by
  have found : ({ engine with cache := some store }.discover fs (.fromRoot root)
      (Path.fromRoot root).text).value = .ok group := by
    unfold Engine.discover Engine.discoveryExcludes
    simp only [usable.file, name_cachePlace, beq_self_eq_true, if_true, walked]
  have pruned := usable.prune scene.now group.all settings.maxAgeMs
  obtain ⟨report, recorded, settled⟩ := Engine.scanFiles_settled { engine with
      cache := some (store.prune scene.now group.all settings.maxAgeMs).value.1 }
    ⟨fs, scene.now⟩ listener turns positive rfl distinct (by
      rw [pruned.file]
      exact hasNull_cachePlace noNull)
  refine ⟨report, recorded, ?_⟩
  unfold Engine.scanRoot
  simp only [ready, found, Engine.pruneCache]
  exact ⟨settled.remembered, settled.result, settled.findings, settled.scanned, settled.skipped,
    settled.cached, settled.cache, settled.fs⟩

private theorem read_project {fs fs' : FileSystem} {excludes : List String}
    (directory : scene.fs.DirectoryAt (.fromRoot root) entries) (proper : scene.fs.disk.Proper)
    (properRoot : ∀ name ∈ root, ProperName name)
    (noneBack : ∀ pattern ∈ excludes, reincludes pattern = false)
    (walked : (Discovery.walk scene.fs excludes (.fromRoot root)).value = .ok group)
    (seen : ∀ place, ¬ cachePlace root <+: place → fs'.disk.see place = fs.disk.see place)
    {path : String} (member : path ∈ group.all) :
    fs'.read (.ofText path) = fs.read (.ofText path) := by
  obtain ⟨place, isPlace, properPlace, apart⟩ := Discovery.path_of_mem_all directory proper
    properRoot excludes noneBack walked member
  rw [isPlace]
  exact FileSystem.read_congr seen rfl (FileSystem.forward_of_proper properPlace) apart

end

/-! A scan and its repetition. -/

/-- A scan of a project that was brought to its end with the cache of the project.  `store` and `fs`
are the cache without its stale entries and the disk when the work on the files began. -/
structure CachedScan (engine : Engine) (scene : Scene) (root : List String)
    (settings : CacheSettings) (version : String) (listener : Engine.Listener) (group : FileGroup)
    (ended : Ended) (report : ScanReport) (store : Store) (fs : FileSystem)
    (recorded : List String) : Prop where
  inStep : InStep root version store fs scene.now
  lasts : store.ledger.Keeps (Store.Lasts group.all (scene.now - settings.maxAgeMs))
  resaved : Resaved EntryFits root scene.fs fs
  settled : Settled (engine.planOf ⟨fs, scene.now⟩ group.all.length listener) group.all store ended
    report recorded

section

variable {engine : Engine} {scene : Scene} {root : List String} {entries : List (String × Node)}
  {settings : CacheSettings} {version : String} {group : FileGroup} {report : ScanReport}
  (positive : 0 < engine.concurrency) (enabled : settings.enabled = true)
  (fileName : settings.fileName = defaultCacheFile)
  (noneBack : ∀ pattern ∈ engine.excluded, reincludes pattern = false)
  (project : Discovery.IsProject scene.fs root entries)
  (walked : (Discovery.walk scene.fs engine.excluded (.fromRoot root)).value = .ok group)
  (distinct : group.all.Nodup)

include positive enabled fileName noneBack project walked distinct

private theorem Engine.scanRoot_cachedScan {clear : Bool} {listener : Engine.Listener}
    {turns : List Nat}
    (fitsNow : Number.fitsDecimal scene.now = true)
    (completed : (engine.scanRoot scene (.fromRoot root) settings version clear listener
      turns).result = .ok report) :
    ∃ store fs recorded, CachedScan engine scene root settings version listener group
      (engine.scanRoot scene (.fromRoot root) settings version clear listener turns) report store fs
      recorded := by
  have noNull := Discovery.hasNull_of_admissible project.directory.admitted
  have shallow : ¬ Store.IsTooDeep scene.fs scene.now (.fromRoot (cachePlace root)) := by
    rw [← child_cacheFile, ← fileName]
    intro deep
    obtain ⟨cause, failed⟩ := engine.prepareCache_tooDeep version clear enabled deep
    unfold Engine.scanRoot at completed
    simp only [failed] at completed
    cases completed
  obtain ⟨read, isRead⟩ := Store.readLedger_ok shallow
  obtain ⟨store, fs, logs, ready, inStep, resaved⟩ := engine.prepareCache_inStep enabled fileName
    project.names project.directory version clear fitsNow isRead
  have walked' := (resaved.walk project.directory engine.excluded noneBack).trans walked
  obtain ⟨report', recorded, settled⟩ := engine.scanRoot_settled positive ready inStep.usable
    noNull walked' distinct listener turns
  have same := settled.result.symm.trans completed
  cases same
  exact ⟨_, fs, recorded, inStep.prune group.all settings.maxAgeMs,
    Store.prune_lasts inStep.synced.sound.keeps inStep.enabled scene.now group.all
      settings.maxAgeMs, resaved, settled⟩

end

private theorem analysis_fits {rules : List Rule} {parser : SourceParser}
    (fits : ∀ rule ∈ rules, ∀ context, ∀ f ∈ (findingsOf rule context).value, f.fits = true)
    (path : String) (bytes : ByteArray) :
    (analysis rules parser path bytes).all Finding.fits = true := by
  rw [List.all_eq_true]
  intro f member
  obtain ⟨rule, inside, found⟩ := List.mem_flatMap.mp (List.mem_filter.mp member).1
  exact fits rule (List.mem_filter.mp inside).1 _ f found

namespace CachedScan

variable {engine : Engine} {scene : Scene} {root : List String} {entries : List (String × Node)}
  {settings : CacheSettings} {version : String} {group : FileGroup} {report : ScanReport}
  {listener : Engine.Listener} {ended : Ended} {store : Store} {fs : FileSystem}
  {recorded : List String}
  (scan : CachedScan engine scene root settings version listener group ended report store fs
    recorded)
  (project : Discovery.IsProject scene.fs root entries)
  (fits : ∀ path bytes, (analysis engine.rules engine.parser path bytes).all Finding.fits = true)
  (age : 0 ≤ settings.maxAgeMs)
  (written : ∀ final, ended.engine.cache = some final → final.dirty = false)

include scan project fits age written

/-- If the cache has been saved, its file holds what it held when the work on the files had ended,
and all of that lasts. -/
theorem stored : ∃ read,
    Store.readLedger ended.fs scene.now (.fromRoot (cachePlace root)) = .ok read ∧
      read.value.files = ((engine.planOf ⟨fs, scene.now⟩ group.all.length listener).recordAll
        recorded store).ledger.files ∧
      read.value.Keeps (Store.Lasts group.all (scene.now - settings.maxAgeMs)) ∧
      Resaved EntryFits root fs ended.fs := by
  let plan := engine.planOf ⟨fs, scene.now⟩ group.all.length listener
  obtain ⟨entries', directory⟩ := scan.resaved.directory project.directory
  have final : InStep root version (plan.recordAll recorded store) fs scene.now :=
    scan.inStep.recordAll rfl recorded fits
  obtain ⟨saved, resaved⟩ := final.save project.names directory
  have clean := written _ scan.settled.cache
  obtain ⟨read, isRead, files⟩ := saved.synced.clean clean scene.now
  rw [saved.file] at isRead
  have sameFiles := files.trans ((plan.recordAll recorded store).save_ledger fs scene.now).1
  have lasting : Usable (Store.Lasts group.all (scene.now - settings.maxAgeMs)) root version
      (plan.recordAll recorded store) := by
    refine Usable.recordAll ⟨scan.inStep.file, scan.inStep.version, scan.inStep.enabled,
      scan.lasts⟩ plan recorded fun path member bytes _ => ?_
    have recent : scene.now - settings.maxAgeMs ≤ scene.now := by omega
    exact ⟨((scan.settled.remembered path).mp member).1, recent⟩
  rw [scan.settled.fs]
  exact ⟨read, isRead, sameFiles, lasting.keeps.of_files sameFiles, resaved⟩

private theorem repeated (positive : 0 < engine.concurrency) (enabled : settings.enabled = true)
    (fileName : settings.fileName = defaultCacheFile)
    (noneBack : ∀ pattern ∈ engine.excluded, reincludes pattern = false)
    (proper : scene.fs.disk.Proper)
    (walked : (Discovery.walk scene.fs engine.excluded (.fromRoot root)).value = .ok group)
    (distinct : group.all.Nodup) (fates : List WriteFate) (listener' : Engine.Listener)
    (turns : List Nat) :
    let again := engine.scanRoot ⟨{ ended.fs with fates }, scene.now⟩ (.fromRoot root) settings
      version false listener' turns
    ∃ report', again.result = .ok report' ∧ report'.findings = report.findings ∧
      report'.scannedFiles = report.scannedFiles ∧ report'.skippedFiles = report.skippedFiles ∧
      report'.cachedFiles = countOf (group.all.countP
        (engine.planOf ⟨fs, scene.now⟩ group.all.length listener).readable) ∧
      again.fs.disk = ended.fs.disk := by
  intro again
  obtain ⟨read, isRead, files, lasts, resaved⟩ := scan.stored project fits age written
  obtain ⟨entries', directory⟩ := scan.resaved.directory project.directory
  let scene' : Scene := ⟨{ ended.fs with fates }, scene.now⟩
  let other : Store := ⟨.fromRoot (cachePlace root), version, read.value, false, true⟩
  have ready : engine.prepareCache scene' (.fromRoot root) settings version false =
      .ok ⟨{ engine with cache := some other }, scene'.fs, read.logs, none⟩ :=
    engine.prepareCache_kept enabled fileName version isRead
  have usable : Usable EntryFits root version other :=
    ⟨rfl, rfl, rfl, (Store.sound_of_readLedger scan.inStep.synced.clock isRead).keeps⟩
  have resaved' : Resaved EntryFits root fs scene'.fs := ⟨resaved.cwd, resaved.disk⟩
  have walked' : (Discovery.walk scene'.fs engine.excluded (.fromRoot root)).value = .ok group :=
    (resaved'.walk directory engine.excluded noneBack).trans
      ((scan.resaved.walk project.directory engine.excluded noneBack).trans walked)
  obtain ⟨report', recorded', settled⟩ := engine.scanRoot_settled positive ready usable
    (Discovery.hasNull_of_admissible project.directory.admitted) walked' distinct listener' turns
  have unpruned : (other.prune scene'.now group.all settings.maxAgeMs).value.1 = other :=
    Store.prune_of_lasts lasts
  rw [unpruned] at settled
  have version' : other.version = store.version := scan.inStep.version.symm
  have reads : ∀ path ∈ group.all, scene'.fs.read (.ofText path) = fs.read (.ofText path) :=
    fun path member => read_project project.directory proper project.names noneBack walked
      resaved'.see member
  have nothing := Settled.again_recorded scan.settled settled scan.inStep.enabled rfl version'
    files reads
  obtain ⟨findings, scanned, skipped, cached⟩ := Settled.again_report scan.settled settled
    scan.inStep.enabled rfl version' files reads
  refine ⟨report', settled.result, findings, scanned, skipped, cached, ?_⟩
  have left := settled.fs
  rw [nothing] at left
  rw [show again.fs = _ from left, show Plan.recordAll _ [] other = other from rfl,
    Store.save_clean _ rfl]
  rfl

end CachedScan

private theorem countOf_rest {paths : List String} {counts : String → Bool} {all : Int}
    {others : Option Int} (isAll : all = paths.length)
    (isOthers : others = countOf (paths.countP fun path => !counts path)) :
    countOf (paths.countP counts) =
      if all - others.getD 0 = 0 then none else some (all - others.getD 0) := by
  have taken : others.getD 0 = paths.countP fun path => !counts path := by
    rw [isOthers, countOf_eq]
    split
    · rename_i none
      rw [none]
      rfl
    · rfl
  have whole : paths.length = paths.countP counts + paths.countP fun path => !counts path := by
    rw [paths.length_eq_countP_add_countP counts]
    simp
  have rest : all - others.getD 0 = paths.countP counts := by omega
  rw [rest, countOf_eq]
  simp

/-- The same call again, without emptying the cache. -/
def Call.repeated (call : Call) (listener : Engine.Listener) (turns : List Nat)
    (fates : List WriteFate) : Call :=
  { call with clearCache := false, listener, turns, fates }

/-- A scan that is repeated is served from the cache.  Whatever the cache file held before: if a scan
of a project has reported and what it changed in the cache has been written, the same scan at the
same time reports the same findings and the same numbers of scanned and skipped files, takes every
other file from the cache and leaves the disk as it is, byte for byte. -/
theorem repeated_scan_served (scene : Scene) (environment : Settings.Environment)
    (project : String) (call : Call) (root : Path) (entries : List (String × Node))
    (report : ScanReport) (listener : Engine.Listener) (turns : List Nat) (fates : List WriteFate)
    (regular : scene.fs.Regular) (resolved : scene.fs.resolve (.ofText project) = .ok root)
    (looked : scene.fs.look root = .ok (some (.folder entries)))
    (accepted : ∃ known v, Settings.check known v = .valid call.settings)
    (enabled : call.settings.cache.enabled = true)
    (fileName : call.settings.cache.fileName = defaultCacheFile)
    (noneBack : ∀ pattern ∈ call.settings.scan.exclude, reincludes pattern = false)
    (fitsNow : Number.fitsDecimal scene.now = true)
    (fits : ∀ rule ∈ call.engine.rules, ∀ context, ∀ f ∈ (findingsOf rule context).value,
      f.fits = true)
    (completed : (call.run environment project scene).result = .ok report)
    (written : ∀ store, (call.run environment project scene).engine.cache = some store →
      store.dirty = false) :
    let left := (call.run environment project scene).fs
    let again := (call.repeated listener turns fates).run environment project ⟨left, scene.now⟩
    let served := report.scannedFiles - report.skippedFiles.getD 0
    ∃ report', again.result = .ok report' ∧ report'.findings = report.findings ∧
      report'.scannedFiles = report.scannedFiles ∧ report'.skippedFiles = report.skippedFiles ∧
      report'.cachedFiles = (if served = 0 then none else some served) ∧
      again.fs.disk = left.disk := by
  intro left again served
  have regular' : (call.sceneOf scene).fs.Regular := ⟨regular.proper, regular.distinct, regular.cwd⟩
  obtain ⟨parts, rfl, isProject⟩ := Discovery.isProject_of_look regular' resolved looked
  have positive : 0 < call.engine.concurrency := Engine.slots_positive _
  obtain ⟨known, v, valid⟩ := accepted
  have age := Settings.maxAgeMs_nonneg_of_valid valid
  -- The first scan.
  have runs : call.run environment project scene = call.engine.scanRoot (call.sceneOf scene)
      (.fromRoot parts) call.settings.cache call.version call.clearCache call.listener call.turns :=
    scanProject_directory resolved looked rfl
  rw [runs] at completed written
  have answered := (Engine.scanRoot_cached_iff positive isProject.directory
    (Settings.isFileName_of_valid valid) enabled call.version call.clearCache call.listener
    call.turns).mp ⟨report, completed⟩
  have whole : Exclusion.firstBreakdown? call.engine.excluded = none := by
    have whole := answered.1
    rwa [fileName, child_cacheFile, name_cachePlace, Discovery.withCacheFile, if_pos rfl] at whole
  have walked := Discovery.walk_directory isProject.directory whole
  have distinct : (Discovery.filesIn (Discovery.filterFor call.engine.excluded) parts
      entries).all.Nodup := Discovery.nodup_all isProject
  obtain ⟨store, fs, recorded, scan⟩ := Engine.scanRoot_cachedScan positive enabled fileName
    noneBack isProject walked distinct fitsNow completed
  obtain ⟨_, _, _, _, resaved⟩ := scan.stored isProject (analysis_fits fits) age written
  obtain ⟨report', again', sameFindings, sameScanned, sameSkipped, cached, sameDisk⟩ :=
    scan.repeated isProject (analysis_fits fits) age written positive enabled fileName noneBack
      regular.proper walked distinct fates listener turns
  rw [← runs] at resaved again' sameDisk
  -- The project is found again.
  obtain ⟨entries₁, directory₁⟩ := scan.resaved.directory isProject.directory
  have isAgain : Resaved EntryFits parts fs { left with fates } := ⟨resaved.cwd, resaved.disk⟩
  obtain ⟨entries₂, directory₂⟩ := isAgain.directory directory₁
  have resolved₂ : { left with fates }.resolve (.ofText project) = .ok (.fromRoot parts) := by
    have sameCwd : left.cwd = scene.fs.cwd := resaved.cwd.trans scan.resaved.cwd
    rw [← resolved, FileSystem.resolve, FileSystem.resolve, sameCwd]
  have reruns : again = call.engine.scanRoot ⟨{ left with fates }, scene.now⟩ (.fromRoot parts)
      call.settings.cache call.version false listener turns :=
    scanProject_directory resolved₂ directory₂.look rfl
  rw [reruns]
  refine ⟨report', again', sameFindings, sameScanned, sameSkipped, ?_, sameDisk⟩
  rw [cached]
  exact countOf_rest scan.settled.scanned scan.settled.skipped

/-- A project with a script and a broken cache file. -/
def brokenProject : Scene where
  fs := { disk := .folder [("p", .folder
    [("a.js", .file (Text.encode "x")), (defaultCacheFile, .file ⟨#[0xff]⟩)])] }
  now := 5

/-- A scan of the scripts of a project that first empties its cache. -/
def emptyingCall : Call where
  version := "1"
  groups := [⟨.storage, [everyScript]⟩]
  clearCache := true
  turns := [1, 0]

theorem repeated_scan_served_despite_broken_file :
    let left := (emptyingCall.run [] "/p" brokenProject).fs
    let again := (emptyingCall.repeated none [0, 0] []).run [] "/p" ⟨left, brokenProject.now⟩
    (emptyingCall.run [] "/p" brokenProject).result.toOption.bind (·.cachedFiles) = none ∧
      ∃ report, again.result = .ok report ∧ report.findings.map (·.path) = ["/p/a.js"] ∧
        report.cachedFiles = some 1 ∧ again.fs.disk = left.disk := by
  let finding : Finding :=
    { ruleId := "EVERY_SCRIPT", description := "A script", severity := .low, path := "/p/a.js" }
  let report : ScanReport := { findings := [finding], scannedFiles := 1 }
  have reported : (emptyingCall.run [] "/p" brokenProject).result.toOption = some report := by
    decide +kernel
  have completed : (emptyingCall.run [] "/p" brokenProject).result = .ok report := by
    cases result : (emptyingCall.run [] "/p" brokenProject).result with
    | error failure =>
        rw [result] at reported
        cases reported
    | ok other =>
        rw [result] at reported
        cases reported
        rfl
  have clean : ((emptyingCall.run [] "/p" brokenProject).engine.cache.all fun store =>
      !store.dirty) = true := by
    decide +kernel
  have written : ∀ store, (emptyingCall.run [] "/p" brokenProject).engine.cache = some store →
      store.dirty = false := by
    intro store isCache
    rw [isCache] at clean
    simpa using clean
  have fits : ∀ rule ∈ emptyingCall.engine.rules, ∀ context, ∀ f ∈ (findingsOf rule context).value,
      f.fits = true := by
    intro rule member context f found
    obtain rfl : rule = everyScript := by
      simpa [emptyingCall, Call.engine, Engine.ofSettings, Engine.rules] using member
    obtain rfl : f = _ := List.mem_singleton.mp found
    rfl
  have usual : Settings.check [] (.map []) = .valid {} := by rfl
  have regular : brokenProject.fs.Regular := .of_check (by decide) (by simp [brokenProject])
  obtain ⟨report', result, findings, _, _, cached, disk⟩ := repeated_scan_served brokenProject []
    "/p" emptyingCall (.fromRoot ["p"]) _ report none [0, 0] [] regular (by rfl) (by rfl)
    ⟨[], _, usual⟩ rfl rfl (by simp [emptyingCall]) (by decide +kernel) fits completed written
  refine ⟨?_, report', result, ?_, ?_, disk⟩
  · rw [reported]
    rfl
  · rw [findings]
    rfl
  · rw [cached]
    rfl

end Scan

end MobileAudit
