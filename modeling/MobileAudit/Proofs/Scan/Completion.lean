import MobileAudit.Proofs.Cache.Location
import MobileAudit.Proofs.Discovery.Exactness
import MobileAudit.Proofs.Scan.Dispatch
import MobileAudit.Proofs.Scan.Project

namespace MobileAudit

open Disk Exclusion

/-! When a scan of a project is brought to its end.  Each step of the work on the cache is either
answered or breaks off, and a scan is answered exactly if all of its steps are. -/

namespace Cache.Store

/-- A cache file whose document is nested too deep. -/
def IsTooDeep (fs : FileSystem) (now : Int) (file : Path) : Prop :=
  ∃ bytes cause, fs.read file = .ok bytes ∧ decode now bytes = .error cause

private theorem readLedger_tooDeep {fs : FileSystem} {now : Int} {file : Path}
    (deep : IsTooDeep fs now file) : ∃ cause, readLedger fs now file = .error cause := by
  obtain ⟨bytes, cause, read, failed⟩ := deep
  refine ⟨cause, ?_⟩
  unfold readLedger
  simp only [read, failed]

theorem readLedger_ok {fs : FileSystem} {now : Int} {file : Path}
    (shallow : ¬ IsTooDeep fs now file) : ∃ ledger, readLedger fs now file = .ok ledger := by
  cases result : readLedger fs now file with
  | ok ledger => exact ⟨ledger, rfl⟩
  | error cause =>
      unfold readLedger at result
      simp only at result
      split at result
      · cases result
      · cases result
      · rename_i bytes read
        split at result
        · rename_i other failed
          exact absurd ⟨bytes, other, read, failed⟩ shallow
        · cases result
        · cases result

theorem read_null {fs : FileSystem} {file : Path} (null : file.hasNull = true) :
    fs.read file = .error .nullByte := by
  unfold FileSystem.read
  rw [FileSystem.locate_eq, FileSystem.admissible, if_pos null]
  rfl

theorem readLedger_null (fs : FileSystem) (now : Int) {file : Path} (null : file.hasNull = true) :
    ∃ logs, readLedger fs now file = .ok ⟨.fresh now, logs⟩ := by
  unfold readLedger
  simp only [read_null null]
  exact ⟨_, rfl⟩

theorem hasNull_child {parts : List String} {name : String}
    (noNull : (Path.fromRoot parts).hasNull = false) (isName : Settings.IsFileName name) :
    ((Path.fromRoot parts).child name).hasNull = true ↔ '\x00' ∈ name.toList := by
  rw [Path.child_fileName isName]
  by_cases isPoint : name = "."
  · rw [if_pos isPoint, noNull, isPoint]
    decide
  · rw [if_neg isPoint]
    simp only [Path.hasNull, Path.fromRoot, List.any_append] at noNull ⊢
    rw [noNull]
    simp

theorem save_null {fs : FileSystem} {store : Store} {parts : List String}
    {entries : List (String × Node)} {name : String} (now : Int)
    (directory : fs.DirectoryAt (.fromRoot parts) entries) (isName : Settings.IsFileName name)
    (file : store.file = (Path.fromRoot parts).child name) (null : '\x00' ∈ name.toList)
    (enabled : store.enabled = true) (dirty : store.dirty = true) :
    (store.save fs now).escaped = some .nullByte := by
  have noNull := Discovery.hasNull_of_admissible directory.admitted
  have isNull := (hasNull_child noNull isName).mpr null
  have noPoint : name ≠ "." := by
    rintro rfl
    exact absurd null (by decide)
  rw [Path.child_fileName isName, if_neg noPoint] at file isNull
  have parent : store.file.parent = .fromRoot parts := by
    rw [file]
    simp [Path.parent, Path.fromRoot]
  have refused : ∀ content, { fs with fates := fs.fates.tail }.write store.file content =
      .error .nullByte := by
    intro content
    rw [file, FileSystem.write, FileSystem.site, FileSystem.admissible, if_pos isNull]
    rfl
  have written : ∀ content, putFile fs store.file content =
      ({ fs with fates := fs.fates.tail }, some .nullByte) := by
    intro content
    unfold putFile FileSystem.tryWrite
    rw [parent, directory.makeDirectories]
    simp only [refused]
  unfold save
  simp only [enabled, dirty, written, Bool.not_true, Bool.or_false, Bool.false_eq_true, if_false]

private theorem prune_empty {store : Store} (empty : store.ledger.files = []) (now : Int)
    (existing : List String) (maxAgeMs : Int) :
    (store.prune now existing maxAgeMs).value.1 = store := by
  unfold prune
  rw [empty]
  split <;> rfl

theorem save_clean {fs : FileSystem} {store : Store} (now : Int) (clean : store.dirty = false) :
    store.save fs now = ⟨store, fs, [], none⟩ := by
  rw [save, if_pos (by simp [clean])]

/-- A cache with a file name that no disk can hold is only saved if there is nothing to save. -/
theorem save_kept_iff {fs : FileSystem} {store : Store} {parts : List String}
    {entries : List (String × Node)} {name : String} (now : Int)
    (directory : fs.DirectoryAt (.fromRoot parts) entries) (isName : Settings.IsFileName name)
    (file : store.file = (Path.fromRoot parts).child name) (null : '\x00' ∈ name.toList)
    (enabled : store.enabled = true) :
    (store.save fs now).escaped = none ↔ store.dirty = false := by
  cases dirty : store.dirty with
  | false => simp [save_clean now dirty]
  | true => simp [save_null now directory isName file null enabled dirty]

end Cache.Store

namespace Scan

open Cache

/-! The steps of a scan with a cache. -/

/-- The cache of a project when it has been prepared, and the disk then. -/
structure Prepared (before : FileSystem) (now : Int) (parts : List String) (name : String)
    (entries : List (String × Node)) (store : Store) (fs : FileSystem) : Prop where
  file : store.file = (Path.fromRoot parts).child name
  enabled : store.enabled = true
  directory : ∃ entries', fs.DirectoryAt (.fromRoot parts) entries' ∧
    (entries' = entries ∨ ProperName name ∧ ∃ content,
      entries' = Node.putEntry name (.file content) entries)
  null : '\x00' ∈ name.toList →
    fs = before ∧ store.ledger.files = [] ∧ store.dirty = false

section

variable {scene : Scene} {parts : List String} {entries : List (String × Node)}
  {settings : CacheSettings}

theorem Engine.attachCache_ok (engine : Engine) (version : String) {root : Path}
    {fileName : String} {ledger : Logged Ledger}
    (isLedger : Store.readLedger scene.fs scene.now (root.child fileName) = .ok ledger) :
    engine.attachCache scene root version fileName =
      .ok ⟨{ engine with cache := some ⟨root.child fileName, version, ledger.value, false, true⟩ },
        ledger.logs⟩ := by
  unfold Engine.attachCache Store.load Store.create
  simp only [isLedger]
  rfl

theorem Engine.prepareCache_tooDeep (engine : Engine) (version : String) (clear : Bool)
    (enabled : settings.enabled = true)
    (deep : Store.IsTooDeep scene.fs scene.now ((Path.fromRoot parts).child settings.fileName)) :
    ∃ cause, engine.prepareCache scene (.fromRoot parts) settings version clear =
      .error (.cacheTooDeep cause) := by
  obtain ⟨cause, failed⟩ := Store.readLedger_tooDeep deep
  refine ⟨cause, ?_⟩
  unfold Engine.prepareCache Engine.attachCache Store.load Store.create
  simp only [enabled, failed, Bool.not_true, Bool.false_eq_true, if_false]
  rfl

variable (directory : scene.fs.DirectoryAt (.fromRoot parts) entries)
  (isName : Settings.IsFileName settings.fileName) (enabled : settings.enabled = true)
  (shallow : ¬ Store.IsTooDeep scene.fs scene.now
    ((Path.fromRoot parts).child settings.fileName))

include directory isName enabled shallow

theorem Engine.prepareCache_ready (engine : Engine) (version : String) (clear : Bool)
    (writable : '\x00' ∈ settings.fileName.toList → clear = false) :
    ∃ store fs logs, engine.prepareCache scene (.fromRoot parts) settings version clear =
        .ok ⟨{ engine with cache := some store }, fs, logs, none⟩ ∧
      Prepared scene.fs scene.now parts settings.fileName entries store fs := by
  have noNull := Discovery.hasNull_of_admissible directory.admitted
  obtain ⟨ledger, isLedger⟩ := Store.readLedger_ok shallow
  have fresh : '\x00' ∈ settings.fileName.toList → ledger.value.files = [] := by
    intro null
    obtain ⟨logs, isFresh⟩ := Store.readLedger_null scene.fs scene.now
      ((Store.hasNull_child noNull isName).mpr null)
    rw [isFresh, Except.ok.injEq] at isLedger
    rw [← isLedger]
    rfl
  have attached := engine.attachCache_ok version isLedger
  unfold Engine.prepareCache
  simp only [enabled, attached, Bool.not_true, Bool.false_eq_true, if_false]
  cases clear with
  | false =>
      exact ⟨_, _, _, rfl, rfl, rfl, ⟨entries, directory, .inl rfl⟩, fun null =>
        ⟨rfl, fresh null, rfl⟩⟩
  | true =>
      have noEscape : '\x00' ∉ settings.fileName.toList := fun null => by
        cases writable null
      generalize isLoaded : (⟨(Path.fromRoot parts).child settings.fileName, version, ledger.value,
        false, true⟩ : Store) = loaded
      obtain ⟨file, _, stays⟩ := loaded.clear_fixed scene.now
      obtain ⟨savedFile, _, savedStays⟩ := (loaded.clear scene.now).save_fixed scene.fs scene.now
      have isFile : (loaded.clear scene.now).file =
          (Path.fromRoot parts).child settings.fileName := by
        rw [file, ← isLoaded]
      have isEnabled : loaded.enabled = true := by rw [← isLoaded]
      have saved : ((loaded.clear scene.now).save scene.fs scene.now).escaped = none := by
        cases escaped : ((loaded.clear scene.now).save scene.fs scene.now).escaped with
        | none => rfl
        | some error =>
            have null := (Store.save_escaped escaped).2
            rw [isFile] at null
            exact absurd ((Store.hasNull_child noNull isName).mp null) noEscape
      refine ⟨_, _, ledger.logs ++ ((loaded.clear scene.now).save scene.fs scene.now).logs, ?_,
        savedFile.trans isFile, savedStays.trans (stays.trans isEnabled),
        Store.directoryAt_save scene.now directory isName isFile, fun null => absurd null noEscape⟩
      simp only [if_true, Engine.clearCache, Engine.saveCache, Option.map_some, saved]

omit shallow

private theorem Engine.prepareCache_null (engine : Engine) (version : String)
    (null : '\x00' ∈ settings.fileName.toList) :
    ∃ prepared fs logs, engine.prepareCache scene (.fromRoot parts) settings version true =
      .ok ⟨prepared, fs, logs, some .nullByte⟩ := by
  have noNull := Discovery.hasNull_of_admissible directory.admitted
  obtain ⟨logs, isLedger⟩ := Store.readLedger_null scene.fs scene.now
    ((Store.hasNull_child noNull isName).mpr null)
  have attached := engine.attachCache_ok version isLedger
  unfold Engine.prepareCache
  simp only [enabled, attached, Bool.not_true, Bool.false_eq_true, if_false, if_true]
  generalize isLoaded : (⟨(Path.fromRoot parts).child settings.fileName, version,
    Ledger.fresh scene.now, false, true⟩ : Store) = loaded
  have isEnabled : loaded.enabled = true := by rw [← isLoaded]
  have isFile : (loaded.clear scene.now).file =
      (Path.fromRoot parts).child settings.fileName := by
    rw [(loaded.clear_fixed scene.now).1, ← isLoaded]
  have emptied : (loaded.clear scene.now).enabled = true ∧
      (loaded.clear scene.now).dirty = true := by
    simp [Store.clear, isEnabled]
  have escaped := Store.save_null scene.now directory isName isFile null emptied.1 emptied.2
  simp only [Engine.clearCache, Engine.saveCache, Option.map_some, escaped]
  exact ⟨_, _, _, rfl⟩

end

/-! The files and the rest of the scan. -/

theorem Engine.discover_directory (engine : Engine) {fs : FileSystem} {parts : List String}
    {entries : List (String × Node)} (directory : fs.DirectoryAt (.fromRoot parts) entries)
    (shown : String) :
    (engine.discover fs (.fromRoot parts) shown).value =
      match firstBreakdown? engine.discoveryExcludes with
      | some cause => .error (.pattern cause)
      | none => .ok (Discovery.filesIn (Discovery.filterFor engine.discoveryExcludes) parts
          entries) := by
  rw [engine.discover_value]
  cases whole : firstBreakdown? engine.discoveryExcludes with
  | some cause => exact Discovery.walk_broken whole fs _
  | none => exact Discovery.walk_directory directory whole

theorem Engine.discoveryExcludes_prepared (engine : Engine) {before fs : FileSystem} {now : Int}
    {parts : List String} {name : String} {entries : List (String × Node)} {store : Store}
    (prepared : Prepared before now parts name entries store fs) :
    { engine with cache := some store }.discoveryExcludes =
      Discovery.withCacheFile engine.excluded ((Path.fromRoot parts).child name).name := by
  unfold Engine.discoveryExcludes Discovery.withCacheFile
  simp only [prepared.file, beq_iff_eq]

theorem Engine.scanRoot_prepared {engine prepared : Engine} {scene : Scene} {root : Path}
    {settings : CacheSettings} {version : String} {clear : Bool} {fs : FileSystem}
    {logs : List Diagnostic} {group : FileGroup}
    (ready : engine.prepareCache scene root settings version clear =
      .ok ⟨prepared, fs, logs, none⟩)
    (found : (prepared.discover fs root root.text).value = .ok group)
    (listener : Engine.Listener) (turns : List Nat) :
    let rest := (prepared.pruneCache scene.now group.all settings.maxAgeMs).value.scanFiles
      ⟨fs, scene.now⟩ group.all listener turns
    (engine.scanRoot scene root settings version clear listener turns).result = rest.result ∧
      (engine.scanRoot scene root settings version clear listener turns).tasks = rest.tasks := by
  unfold Engine.scanRoot
  simp only [ready, found, and_self]

theorem Engine.pruneCache_cached (engine : Engine) (store : Store) (now : Int)
    (existing : List String) (maxAgeMs : Int) :
    ({ engine with cache := some store }.pruneCache now existing maxAgeMs).value =
      { engine with cache := some (store.prune now existing maxAgeMs).value.1 } := rfl

theorem Engine.conclude_answered_iff (engine : Engine) (scene : Scene) {run : Run} (total : Nat)
    {final : Store} (cache : run.cache = some final) :
    (∃ report, (engine.conclude scene run total).result = .ok report) ↔
      (final.save scene.fs scene.now).escaped = none := by
  unfold Engine.conclude Engine.saveCache
  simp only [cache]
  cases (final.save scene.fs scene.now).escaped with
  | none => simp
  | some error => simp

private theorem Engine.readable_planOf (engine : Engine) (scene : Scene) (total : Nat)
    (listener : Engine.Listener) (path : String) :
    (engine.planOf scene total listener).readable path = true ↔
      ∃ bytes, scene.fs.read (.ofText path) = .ok bytes := by
  unfold Plan.readable
  simp only [planOf]
  cases scene.fs.read (.ofText path) <;> simp [Except.isOk, Except.toBool]

private theorem Plan.dirty_recordAll (plan : Plan) (paths : List String) (store : Store)
    (enabled : store.enabled = true) :
    (plan.recordAll paths store).dirty = true ↔
      store.dirty = true ∨ ∃ path ∈ paths, plan.readable path = true := by
  induction paths generalizing store with
  | nil => simp [recordAll]
  | cons path paths ih =>
      have step : (plan.record store path).dirty = true ↔
          store.dirty = true ∨ plan.readable path = true := by
        unfold record readable
        cases plan.fs.read (.ofText path) with
        | error e => simp [Except.isOk, Except.toBool]
        | ok bytes =>
            simp [Store.set_enabled _ _ _ _ _ enabled, Store.replaceFiles, Except.isOk,
              Except.toBool]
      have rest := ih (plan.record store path) ((plan.record_fixed store path).2.2.trans enabled)
      rw [step] at rest
      rw [show plan.recordAll (path :: paths) store =
        plan.recordAll paths (plan.record store path) from rfl, rest]
      simp [or_assoc]

section

variable (engine : Engine) {scene : Scene} {store : Store}
  (positive : 0 < engine.concurrency) (cached : engine.cache = some store)

include positive cached

private theorem Engine.scanFiles_answered (paths : List String) (listener : Engine.Listener)
    (turns : List Nat) (noNull : store.file.hasNull = false) :
    ∃ report, (engine.scanFiles scene paths listener turns).result = .ok report := by
  have complete := engine.follow_completes scene paths listener positive turns
  obtain ⟨recorded, cache, _⟩ := (reached_follow (engine.planOf scene paths.length listener) paths
    engine.cache (turns ++ Run.drain (engine.planOf scene paths.length listener))).recorded
  obtain reported | ⟨_, final, same, null⟩ := engine.conclude_result scene
    ((Run.start paths engine.cache).follow (engine.planOf scene paths.length listener)
      (turns ++ Run.drain (engine.planOf scene paths.length listener))) paths.length
  · exact ⟨_, reported⟩
  · rw [cache, cached, Option.map_some, Option.some.injEq] at same
    rw [← same, (Plan.recordAll_fixed _ recorded store).1, noNull] at null
    cases null

theorem Engine.scanFiles_null_iff (paths : List String) (listener : Engine.Listener)
    (turns : List Nat) {parts : List String} {name : String} {entries : List (String × Node)}
    (directory : scene.fs.DirectoryAt (.fromRoot parts) entries)
    (isName : Settings.IsFileName name) (null : '\x00' ∈ name.toList)
    (file : store.file = (Path.fromRoot parts).child name) (enabled : store.enabled = true)
    (empty : store.ledger.files = []) (clean : store.dirty = false) :
    (∃ report, (engine.scanFiles scene paths listener turns).result = .ok report) ↔
      ∀ path ∈ paths, ∀ bytes, scene.fs.read (.ofText path) ≠ .ok bytes := by
  generalize isPlan : engine.planOf scene paths.length listener = plan
  have complete := engine.follow_completes scene paths listener positive turns
  have reached := reached_follow plan paths engine.cache (turns ++ Run.drain plan)
  rw [isPlan] at complete
  obtain ⟨recorded, cache, analysed⟩ := reached.recorded
  have unserved : ∀ path, plan.isServed engine.cache path = false := by
    intro path
    unfold Plan.isServed
    split
    · rw [cached, servedBy_enabled store _ _ enabled, empty]
      rfl
    · rfl
  -- Nothing is served from an empty cache, so that every file that can be read is recorded.
  have isRecorded : ∀ path, path ∈ recorded ↔ path ∈ paths ∧ plan.readable path = true := by
    intro path
    rw [analysed, reached.recorded_iff complete, unserved]
    simp
  obtain ⟨savedFile, _, savedEnabled⟩ := plan.recordAll_fixed recorded store
  have dirty := plan.dirty_recordAll recorded store enabled
  have saved := Store.save_kept_iff scene.now directory isName (savedFile.trans file) null
    (savedEnabled.trans enabled)
  have readable := engine.readable_planOf scene paths.length listener
  rw [isPlan] at readable
  have changed : (plan.recordAll recorded store).dirty = true ↔
      ∃ path ∈ paths, ∃ bytes, scene.fs.read (.ofText path) = .ok bytes := by
    rw [dirty, clean]
    simp only [isRecorded, readable, Bool.false_eq_true, false_or]
    constructor
    · rintro ⟨path, ⟨member, _⟩, read⟩
      exact ⟨path, member, read⟩
    · rintro ⟨path, member, read⟩
      exact ⟨path, ⟨member, read⟩, read⟩
  have isFinal : ((Run.start paths engine.cache).follow plan (turns ++ Run.drain plan)).cache =
      some (plan.recordAll recorded store) := by
    rw [cache, cached]
    rfl
  have answered := engine.conclude_answered_iff scene paths.length isFinal
  unfold Engine.scanFiles
  simp only [isPlan]
  rw [answered, saved, ← Bool.not_eq_true, changed]
  simp only [not_exists, not_and, ne_eq]

end

section

variable {engine : Engine} {scene : Scene} {parts : List String} {entries : List (String × Node)}
  {settings : CacheSettings} (positive : 0 < engine.concurrency)
  (directory : scene.fs.DirectoryAt (.fromRoot parts) entries)
  (isName : Settings.IsFileName settings.fileName) (enabled : settings.enabled = true)
  (version : String) (clear : Bool) (listener : Engine.Listener) (turns : List Nat)

include positive directory isName enabled

theorem Engine.scanRoot_answered_iff
    (shallow : ¬ Store.IsTooDeep scene.fs scene.now
      ((Path.fromRoot parts).child settings.fileName))
    (writable : '\x00' ∉ settings.fileName.toList) :
    (∃ report, (engine.scanRoot scene (.fromRoot parts) settings version clear listener
        turns).result = .ok report) ↔
      firstBreakdown? (Discovery.withCacheFile engine.excluded
        ((Path.fromRoot parts).child settings.fileName).name) = none := by
  obtain ⟨store, fs, logs, ready, prepared⟩ := engine.prepareCache_ready directory isName enabled
    shallow version clear fun null => absurd null writable
  obtain ⟨entries', directory', _⟩ := prepared.directory
  have found := { engine with cache := some store }.discover_directory directory'
    (Path.fromRoot parts).text
  rw [engine.discoveryExcludes_prepared prepared] at found
  cases whole : firstBreakdown? (Discovery.withCacheFile engine.excluded
      ((Path.fromRoot parts).child settings.fileName).name) with
  | some cause =>
      rw [whole] at found
      simp [(Engine.scanRoot_unfound ready found listener turns).1]
  | none =>
      rw [whole] at found
      refine iff_of_true ?_ rfl
      have noNull : ((Path.fromRoot parts).child settings.fileName).hasNull = false := by
        rw [← Bool.not_eq_true,
          Store.hasNull_child (Discovery.hasNull_of_admissible directory.admitted) isName]
        exact writable
      rw [(Engine.scanRoot_prepared ready found listener turns).1, Engine.pruneCache_cached]
      refine Engine.scanFiles_answered _ (by exact positive) rfl _ _ _ ?_
      rw [(store.prune_kept _ _ _).1, prepared.file]
      exact noNull

theorem Engine.scanRoot_null_iff (null : '\x00' ∈ settings.fileName.toList) :
    let patterns := Discovery.withCacheFile engine.excluded
      ((Path.fromRoot parts).child settings.fileName).name
    (∃ report, (engine.scanRoot scene (.fromRoot parts) settings version clear listener
        turns).result = .ok report) ↔
      firstBreakdown? patterns = none ∧ clear = false ∧
        ∀ group, (Discovery.walk scene.fs patterns (.fromRoot parts)).value = .ok group →
          ∀ path ∈ group.all, ∀ bytes, scene.fs.read (.ofText path) ≠ .ok bytes := by
  intro patterns
  have noNull := Discovery.hasNull_of_admissible directory.admitted
  have shallow : ¬ Store.IsTooDeep scene.fs scene.now
      ((Path.fromRoot parts).child settings.fileName) := by
    rintro ⟨bytes, cause, read, _⟩
    rw [Store.read_null ((Store.hasNull_child noNull isName).mpr null)] at read
    cases read
  cases clear with
  | true =>
      obtain ⟨emptied, fs, logs, failed⟩ :=
        engine.prepareCache_null directory isName enabled version null
      simp [Engine.scanRoot, failed]
  | false =>
      obtain ⟨store, fs, logs, ready, prepared⟩ := engine.prepareCache_ready directory isName
        enabled shallow version false fun _ => rfl
      obtain ⟨rfl, empty, clean⟩ := prepared.null null
      have found := { engine with cache := some store }.discover_directory directory
        (Path.fromRoot parts).text
      rw [engine.discoveryExcludes_prepared prepared] at found
      cases whole : firstBreakdown? patterns with
      | some cause =>
          rw [whole] at found
          simp [(Engine.scanRoot_unfound ready found listener turns).1]
      | none =>
          rw [whole] at found
          rw [(Engine.scanRoot_prepared ready found listener turns).1, Engine.pruneCache_cached,
            Store.prune_empty empty, Discovery.walk_directory directory whole]
          have answered := Engine.scanFiles_null_iff { engine with cache := some store } positive
            rfl (Discovery.filesIn (Discovery.filterFor patterns) parts entries).all listener turns
            directory isName null prepared.file prepared.enabled empty clean
          refine answered.trans ?_
          constructor
          · intro unreadable
            refine ⟨rfl, rfl, ?_⟩
            rintro _ ⟨⟩
            exact unreadable
          · rintro ⟨_, _, unreadable⟩
            exact unreadable _ rfl

theorem Engine.scanRoot_cached_iff :
    let file := (Path.fromRoot parts).child settings.fileName
    let patterns := Discovery.withCacheFile engine.excluded file.name
    (∃ report, (engine.scanRoot scene (.fromRoot parts) settings version clear listener
        turns).result = .ok report) ↔
      firstBreakdown? patterns = none ∧ ¬ Store.IsTooDeep scene.fs scene.now file ∧
        ('\x00' ∈ settings.fileName.toList → clear = false ∧
          ∀ group, (Discovery.walk scene.fs patterns (.fromRoot parts)).value = .ok group →
            ∀ path ∈ group.all, ∀ bytes, scene.fs.read (.ofText path) ≠ .ok bytes) := by
  intro file patterns
  by_cases deep : Store.IsTooDeep scene.fs scene.now file
  · obtain ⟨cause, failed⟩ := engine.prepareCache_tooDeep version clear enabled deep
    simp only [Engine.scanRoot, failed, deep]
    simp
  · by_cases null : '\x00' ∈ settings.fileName.toList
    · refine (Engine.scanRoot_null_iff positive directory isName enabled version clear listener
        turns null).trans ?_
      simp [deep, null, file, patterns]
    · rw [Engine.scanRoot_answered_iff positive directory isName enabled version clear listener
        turns deep null]
      simp [deep, null, file, patterns]

end

theorem Engine.scanRoot_uncached_iff {engine : Engine} {scene : Scene} {parts : List String}
    {entries : List (String × Node)} {settings : CacheSettings}
    (positive : 0 < engine.concurrency)
    (directory : scene.fs.DirectoryAt (.fromRoot parts) entries) (uncached : engine.cache = none)
    (disabled : settings.enabled = false) (version : String) (clear : Bool)
    (listener : Engine.Listener) (turns : List Nat) :
    (∃ report, (engine.scanRoot scene (.fromRoot parts) settings version clear listener
        turns).result = .ok report) ↔
      firstBreakdown? engine.excluded = none := by
  cases whole : firstBreakdown? engine.excluded with
  | some cause =>
      have failed := (engine.scanRoot_uncached_failed scene settings version clear listener turns
        uncached disabled (Discovery.walk_broken whole scene.fs (.fromRoot parts))).1
      simp [failed]
  | none =>
      obtain ⟨⟨report, reported, _⟩, _⟩ := engine.scanRoot_uncached scene settings version clear
        listener turns positive uncached disabled (Discovery.walk_directory directory whole)
      exact iff_of_true ⟨report, reported⟩ rfl

theorem scanProject_directory {scene : Scene} {environment : Settings.Environment}
    {request : Request} {settings : Settings} {root : Path} {entries : List (String × Node)}
    (resolved : scene.fs.resolve (.ofText request.path) = .ok root)
    (looked : scene.fs.look root = .ok (some (.folder entries)))
    (asked : settingsOf environment request = .ok settings) :
    scanProject scene environment request =
      (Engine.ofSettings settings request.groups request.parser).scanRoot scene root
        settings.cache request.version request.clearCache request.listener request.turns := by
  unfold scanProject
  simp only [resolved, looked, asked, Node.isFolder, if_true]

/-- A scan of a project ends with a report unless one of the exclusion patterns breaks down, of which
the name of the cache file may be one, or the document in the cache file is nested too deep, or the
name of this file has a null character and it would have to be written: to empty it, or because of a
file that has been scanned. -/
theorem scan_answered_iff (scene : Scene) (environment : Settings.Environment) (request : Request)
    (settings : Settings) (root : Path) (entries : List (String × Node))
    (cwd : ∀ name ∈ scene.fs.cwd, ProperName name)
    (resolved : scene.fs.resolve (.ofText request.path) = .ok root)
    (looked : scene.fs.look root = .ok (some (.folder entries)))
    (asked : settingsOf environment request = .ok settings)
    (accepted : ∃ known v, Settings.check known v = .valid settings) :
    let file := root.child settings.cache.fileName
    let patterns := if settings.cache.enabled then
        Discovery.withCacheFile settings.scan.exclude file.name
      else settings.scan.exclude
    (∃ report, (scanProject scene environment request).result = .ok report) ↔
      (∃ filter, (Discovery.projectFilter patterns).value = .ok filter) ∧
      (settings.cache.enabled = true →
        ¬ Store.IsTooDeep scene.fs scene.now file ∧
        ('\x00' ∈ settings.cache.fileName.toList → request.clearCache = false ∧
          ∀ group, (Discovery.walk scene.fs patterns root).value = .ok group →
            ∀ path ∈ group.all, ∀ bytes, scene.fs.read (.ofText path) ≠ .ok bytes)) := by
  intro file patterns
  obtain ⟨parts, rfl, _, directory⟩ := FileSystem.directoryAt_of_resolve cwd resolved looked
  obtain ⟨known, v, valid⟩ := accepted
  have isName := Settings.isFileName_of_valid valid
  have filtered : (∃ filter, (Discovery.projectFilter patterns).value = .ok filter) ↔
      firstBreakdown? patterns = none := by
    simp [Discovery.projectFilter_eq_ok]
  rw [filtered, scanProject_directory resolved looked asked]
  generalize isEngine : Engine.ofSettings settings request.groups request.parser = engine
  have positive : 0 < engine.concurrency := by
    rw [← isEngine]
    exact Engine.slots_positive _
  have excluded : engine.excluded = settings.scan.exclude := by
    rw [← isEngine]
    rfl
  have uncached : engine.cache = none := by
    rw [← isEngine]
    rfl
  cases enabled : settings.cache.enabled with
  | false =>
      have isUsual : patterns = engine.excluded := by simp [patterns, enabled, excluded]
      rw [Engine.scanRoot_uncached_iff positive directory uncached enabled, isUsual]
      simp
  | true =>
      have isExtended : patterns = Discovery.withCacheFile engine.excluded file.name := by
        simp [patterns, enabled, excluded]
      refine (Engine.scanRoot_cached_iff positive directory isName enabled request.version
        request.clearCache request.listener request.turns).trans ?_
      simp [isExtended, file]

/-- A project with a cache file that is broken off, once scanned with this cache file, once with one
that no disk can hold and once with one whose name breaks down as a pattern. -/
theorem answered_unless_unwritable :
    let entries := [("a.xml", Node.file .empty), (defaultCacheFile, .file (Text.encode "["))]
    let scene : Scene := ⟨{ disk := .folder [("p", .folder entries)] }, 0⟩
    let named := fun fileName : String => ({ cache := { fileName } } : Settings)
    let answered := fun settings : Settings =>
      ∃ report, (scanProject scene [] { path := "/p", settings := some settings }).result =
        .ok report
    scene.fs.resolve (.ofText "/p") = .ok (.fromRoot ["p"]) ∧
      scene.fs.look (.fromRoot ["p"]) = .ok (some (.folder entries)) ∧
      (∀ fileName ∈ [defaultCacheFile, "c\x00d", "[^][](a\x7b4294967296\x7d)]"],
        ∃ v, Settings.check [] v = .valid (named fileName)) ∧
      answered (named defaultCacheFile) ∧ ¬ answered (named "c\x00d") ∧
      ¬ answered (named "[^][](a\x7b4294967296\x7d)]") := by
  intro entries scene named answered
  have resolved : scene.fs.resolve (.ofText "/p") = .ok (.fromRoot ["p"]) := by rfl
  have looked : scene.fs.look (.fromRoot ["p"]) = .ok (some (.folder entries)) := by rfl
  have accepted : ∀ fileName ∈ [defaultCacheFile, "c\x00d", "[^][](a\x7b4294967296\x7d)]"],
      ∃ v, Settings.check [] v = .valid (named fileName) := by
    intro fileName member
    refine ⟨.map [(.text "cache", .map [(.text "file_name", .text fileName)])], ?_⟩
    simp only [List.mem_cons, List.not_mem_nil, or_false] at member
    rcases member with rfl | rfl | rfl <;> rfl
  have exact : ∀ (fileName : String) (patterns : List String),
      (∃ v, Settings.check [] v = .valid (named fileName)) →
      Discovery.withCacheFile [] ((Path.fromRoot ["p"]).child fileName).name = patterns →
      (answered (named fileName) ↔ firstBreakdown? patterns = none ∧
        ¬ Store.IsTooDeep scene.fs scene.now ((Path.fromRoot ["p"]).child fileName) ∧
        ('\x00' ∈ fileName.toList →
          ∀ group, (Discovery.walk scene.fs patterns (.fromRoot ["p"])).value = .ok group →
            ∀ path ∈ group.all, ∀ bytes, scene.fs.read (.ofText path) ≠ .ok bytes)) := by
    rintro fileName _ accepts rfl
    have answers := scan_answered_iff scene [] { path := "/p", settings := some (named fileName) }
      (named fileName) (.fromRoot ["p"]) entries (by simp [scene]) resolved looked rfl
      ⟨[], accepts⟩
    simpa [named, answered, Discovery.projectFilter_eq_ok] using answers
  refine ⟨resolved, looked, accepted, ?_, ?_, ?_⟩
  · refine (exact defaultCacheFile [] (accepted _ (by simp)) rfl).mpr ⟨rfl, ?_, ?_⟩
    · rintro ⟨bytes, cause, read, failed⟩
      have stored : scene.fs.read ((Path.fromRoot ["p"]).child defaultCacheFile) =
          .ok (Text.encode "[") := by rfl
      have decoded : (Store.decode 0 (Text.encode "[")).isOk = true := by decide +kernel
      rw [stored, Except.ok.injEq] at read
      rw [read, failed] at decoded
      cases decoded
    · intro null
      exact absurd null (by decide)
  · rw [exact "c\x00d" ["c\x00d"] (accepted _ (by simp)) (by decide +kernel)]
    rintro ⟨whole, _, unread⟩
    have found : "/p/a.xml" ∈
        (Discovery.filesIn (Discovery.filterFor ["c\x00d"]) ["p"] entries).all := by
      decide +kernel
    have isRoot : scene.fs.resolve (.fromRoot ["p"]) = .ok (.fromRoot ["p"]) := by rfl
    have walked := Discovery.walk_resolved isRoot looked whole
    exact unread (by decide) _ walked "/p/a.xml" found .empty (by rfl)
  · rw [exact _ ["[^][](a\x7b4294967296\x7d)]"] (accepted _ (by simp)) (by decide +kernel)]
    rintro ⟨whole, _⟩
    have broken : firstBreakdown? ["[^][](a\x7b4294967296\x7d)]"] = some .manyRepetitions := by
      decide +kernel
    cases broken.symm.trans whole

end Scan

end MobileAudit
