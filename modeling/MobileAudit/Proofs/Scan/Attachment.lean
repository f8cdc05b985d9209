import MobileAudit.Proofs.Discovery.FileNamePattern
import MobileAudit.Proofs.Scan.Completion

namespace MobileAudit

open Disk Exclusion

/-! Which files a project loses by its cache.  The name of the cache file is one more exclusion
pattern, and a pattern does not only hide the cache file itself. -/

namespace Scan

open Cache Discovery

/-! Scans with and without a cache. -/

@[simp] theorem Engine.scanFiles_paths (engine : Engine) (scene : Scene) (paths : List String)
    (listener : Engine.Listener) (turns : List Nat) :
    (engine.scanFiles scene paths listener turns).tasks.map (·.path) = paths := by
  have reached := reached_follow (engine.planOf scene paths.length listener) paths engine.cache
    (turns ++ Run.drain (engine.planOf scene paths.length listener))
  unfold Engine.scanFiles Engine.conclude
  simp only
  split <;> exact reached.paths

section

variable {engine prepared : Engine} {scene : Scene} {parts : List String}
  {entries : List (String × Node)} {settings : CacheSettings} {version : String} {clear : Bool}
  {fs : FileSystem} {logs : List Diagnostic}

theorem Engine.scanRoot_paths
    (ready : engine.prepareCache scene (.fromRoot parts) settings version clear =
      .ok ⟨prepared, fs, logs, none⟩)
    (directory : fs.DirectoryAt (.fromRoot parts) entries) (listener : Engine.Listener)
    (turns : List Nat) :
    (engine.scanRoot scene (.fromRoot parts) settings version clear listener turns).tasks.map
        (·.path) =
      filesFor prepared.discoveryExcludes parts entries := by
  have found := prepared.discover_directory directory (Path.fromRoot parts).text
  unfold filesFor
  cases whole : firstBreakdown? prepared.discoveryExcludes with
  | some cause =>
      rw [whole] at found
      rw [(Engine.scanRoot_unfound ready found listener turns).2.1, List.map_nil]
  | none =>
      rw [whole] at found
      rw [(Engine.scanRoot_prepared ready found listener turns).2, Engine.scanFiles_paths]

private theorem Engine.scanRoot_paths_uncached (uncached : engine.cache = none)
    (disabled : settings.enabled = false)
    (directory : scene.fs.DirectoryAt (.fromRoot parts) entries) (listener : Engine.Listener)
    (turns : List Nat) :
    (engine.scanRoot scene (.fromRoot parts) settings version clear listener turns).tasks.map
        (·.path) =
      filesFor engine.excluded parts entries := by
  have ready := engine.prepareCache_disabled scene (.fromRoot parts) disabled version clear
  rw [Engine.scanRoot_paths ready directory, Engine.discoveryExcludes_uncached uncached]

private theorem Engine.scanRoot_paths_cached (enabled : settings.enabled = true)
    (directory : scene.fs.DirectoryAt (.fromRoot parts) entries)
    (isName : Settings.IsFileName settings.fileName) (unsigned : IsUnsigned settings.fileName)
    (noPoint : settings.fileName ≠ ".") (noBreak : '\n' ∉ settings.fileName.toList)
    (noneBack : settings.fileName = defaultCacheFile →
      ∀ pattern ∈ engine.excluded, reincludes pattern = false)
    (shallow : ¬ Store.IsTooDeep scene.fs scene.now
      ((Path.fromRoot parts).child settings.fileName))
    (writable : '\x00' ∈ settings.fileName.toList → clear = false)
    (listener : Engine.Listener) (turns : List Nat) :
    (engine.scanRoot scene (.fromRoot parts) settings version clear listener turns).tasks.map
        (·.path) =
      filesFor (withCacheFile engine.excluded settings.fileName) parts entries := by
  have isLast : ((Path.fromRoot parts).child settings.fileName).name = settings.fileName := by
    rw [Path.child_fileName isName, if_neg noPoint, Path.name_fromRoot]
  obtain ⟨store, fs, logs, ready, prepared⟩ := engine.prepareCache_ready directory isName enabled
    shallow version clear writable
  -- An emptied cache has been written before the files are looked for.
  obtain ⟨entries', directory', same | ⟨proper, content, written⟩⟩ := prepared.directory
  · rw [Engine.scanRoot_paths ready directory', engine.discoveryExcludes_prepared prepared,
      isLast, same]
  · have put := filesIn_putEntry isName unsigned noneBack
      ⟨proper, noBreak, isName.noBackslash⟩ (.file content) parts entries
    rw [Engine.scanRoot_paths ready directory', engine.discoveryExcludes_prepared prepared,
      isLast, written, filesFor, put]
    rfl

end

/-- A request for given settings in which the cache is switched on or off. -/
def Request.caching (request : Request) (settings : Settings) (enabled : Bool) : Request :=
  { request with settings := some { settings with cache := { settings.cache with enabled } } }

theorem caching_paths {scene : Scene} {environment : Settings.Environment} {request : Request}
    {settings : Settings} {parts : List String} {entries : List (String × Node)}
    (resolved : scene.fs.resolve (.ofText request.path) = .ok (.fromRoot parts))
    (directory : scene.fs.DirectoryAt (.fromRoot parts) entries) :
    (scanProject scene environment (request.caching settings false)).tasks.map (·.path) =
      filesFor settings.scan.exclude parts entries := by
  have whole : scanProject scene environment (request.caching settings false) = _ :=
    scanProject_directory resolved directory.look rfl
  rw [whole]
  exact Engine.scanRoot_paths_uncached rfl rfl directory _ _

private theorem caching_paths_cached {scene : Scene} {environment : Settings.Environment}
    {request : Request} {settings : Settings} {parts : List String}
    {entries : List (String × Node)}
    (resolved : scene.fs.resolve (.ofText request.path) = .ok (.fromRoot parts))
    (directory : scene.fs.DirectoryAt (.fromRoot parts) entries)
    (isName : Settings.IsFileName settings.cache.fileName)
    (unsigned : IsUnsigned settings.cache.fileName)
    (noPoint : settings.cache.fileName ≠ ".") (noBreak : '\n' ∉ settings.cache.fileName.toList)
    (noneBack : settings.cache.fileName = defaultCacheFile →
      ∀ pattern ∈ settings.scan.exclude, reincludes pattern = false)
    (shallow : ¬ Store.IsTooDeep scene.fs scene.now
      ((Path.fromRoot parts).child settings.cache.fileName))
    (writable : '\x00' ∈ settings.cache.fileName.toList → request.clearCache = false) :
    (scanProject scene environment (request.caching settings true)).tasks.map (·.path) =
      filesFor (withCacheFile settings.scan.exclude settings.cache.fileName) parts entries := by
  have whole : scanProject scene environment (request.caching settings true) = _ :=
    scanProject_directory resolved directory.look rfl
  have enabled : CacheSettings.enabled { settings.cache with enabled := true } = true := rfl
  have noneBack' : settings.cache.fileName = defaultCacheFile →
      ∀ pattern ∈ (Engine.ofSettings settings request.groups request.parser).excluded,
        reincludes pattern = false := noneBack
  rw [whole]
  exact Engine.scanRoot_paths_cached enabled directory isName unsigned noPoint noBreak noneBack'
    shallow writable _ _

/-- A project has the files with its cache that it has without, except those of which a part of the
path is described by the name of the cache file.  So the cache changes nothing but that it hides the
cache file if and only if no other file of the project is covered by the name. -/
theorem cached_files_exact (scene : Scene) (environment : Settings.Environment)
    (request : Request) (settings : Settings) (v : Value) (root : Path)
    (entries : List (String × Node)) (regular : scene.fs.Regular)
    (resolved : scene.fs.resolve (.ofText request.path) = .ok root)
    (looked : scene.fs.look root = .ok (some (.folder entries)))
    (accepted : Settings.checkFileName v = .valid settings.cache.fileName)
    (unsigned : IsUnsigned settings.cache.fileName)
    (noPoint : settings.cache.fileName ≠ ".") (noBreak : '\n' ∉ settings.cache.fileName.toList)
    (noneBack : settings.cache.fileName = defaultCacheFile →
      ∀ pattern ∈ settings.scan.exclude, reincludes pattern = false)
    (clean : ∀ place content, (Node.folder entries).find? place = some (.file content) →
      ∀ n ∈ place, '\n' ∉ n.toList ∧ '\\' ∉ n.toList)
    (shallow : ¬ Store.IsTooDeep scene.fs scene.now (root.child settings.cache.fileName))
    (writable : '\x00' ∈ settings.cache.fileName.toList → request.clearCache = false) :
    let files := fun enabled =>
      (scanProject scene environment (request.caching settings enabled)).tasks.map (·.path)
    let pathOf := fun place => (Path.mk root.anchor (root.parts ++ place)).text
    let covers := fun place => Covers settings.cache.fileName.toList (List.map String.toList place)
    (∃ keep : String → Bool, files true = (files false).filter keep ∧
      ∀ place content, (Node.folder entries).find? place = some (.file content) →
        (keep (pathOf place) = true ↔ ¬ covers place)) ∧
    (files true = (files false).filter (· != (root.child settings.cache.fileName).text) ↔
      ∀ place content, (Node.folder entries).find? place = some (.file content) →
        pathOf place ∈ files false → covers place → place = [settings.cache.fileName]) := by
  intro files pathOf covers
  obtain ⟨parts, rfl, project⟩ := isProject_of_look regular resolved looked
  have isName := Settings.isFileName_of_check accepted
  have uncached : files false = filesFor settings.scan.exclude parts entries :=
    caching_paths resolved project.directory
  have cached : files true = _ := caching_paths_cached resolved project.directory isName unsigned
    noPoint noBreak noneBack shallow writable
  obtain ⟨keep, keeps⟩ := exists_keep project settings.cache.fileName.toList
  have kept : files true = (files false).filter keep := by
    rw [cached, uncached]
    exact filesFor_withCacheFile project isName unsigned noneBack clean keeps
  refine ⟨⟨keep, kept, keeps⟩, ?_⟩
  -- The files are tested one by one: the test is to say the same as the place of the cache file.
  rw [kept, filter_eq_iff]
  constructor
  · intro agree place content isThere member covered
    have same := Bool.eq_iff_iff.mp (agree _ member)
    refine (text_eq_child_iff project isName noPoint isThere).mp (Decidable.not_not.mp ?_)
    intro apart
    exact (keeps place content isThere).mp (same.mpr (bne_iff_ne.mpr apart)) covered
  · intro alone path member
    rw [uncached] at member
    obtain ⟨place, content, isThere, rfl⟩ := mem_filesFor project member
    rw [← uncached] at member
    rw [Bool.eq_iff_iff, bne_iff_ne, Ne, text_eq_child_iff project isName noPoint isThere]
    refine (keeps place content isThere).trans (not_congr ⟨?_, ?_⟩)
    · exact alone place content isThere member
    · rintro rfl
      exact covers_self isName unsigned

/-- A cache under the name of another file of the project hides this file as well. -/
theorem namesake_hidden :
    let entries := [("sub", Node.folder [("c.xml", .file .empty)])]
    let scene : Scene := ⟨{ disk := .folder [("p", .folder entries)] }, 0⟩
    let request : Request := { path := "/p", groups := [] }
    let settings : Settings := { cache := { fileName := "c.xml" } }
    let files := fun enabled =>
      (scanProject scene [] (request.caching settings enabled)).tasks.map (·.path)
    scene.fs.Regular ∧ scene.fs.resolve (.ofText "/p") = .ok (.fromRoot ["p"]) ∧
      scene.fs.look (.fromRoot ["p"]) = .ok (some (.folder entries)) ∧
      Settings.checkFileName (.text "c.xml") = .valid "c.xml" ∧ IsUnsigned "c.xml" ∧
      (∀ place content, (Node.folder entries).find? place = some (.file content) →
        ∀ n ∈ place, '\n' ∉ n.toList ∧ '\\' ∉ n.toList) ∧
      ¬ Store.IsTooDeep scene.fs 0 ((Path.fromRoot ["p"]).child "c.xml") ∧
      files true ≠ (files false).filter (· != "/p/c.xml") := by
  intro entries scene request settings files
  have regular : scene.fs.Regular := .of_check (by decide) (by simp [scene])
  have resolved : scene.fs.resolve (.ofText "/p") = .ok (.fromRoot ["p"]) := by rfl
  have looked : scene.fs.look (.fromRoot ["p"]) = .ok (some (.folder entries)) := by rfl
  have accepted : Settings.checkFileName (.text "c.xml") = .valid "c.xml" := by rfl
  have unsigned : IsUnsigned "c.xml" := ⟨by decide, by decide, by decide⟩
  have clean : ∀ place content, (Node.folder entries).find? place = some (.file content) →
      ∀ n ∈ place, '\n' ∉ n.toList ∧ '\\' ∉ n.toList := by
    intro place content isThere
    obtain rfl : place = ["sub", "c.xml"] := by
      rcases place with _ | ⟨first, _ | ⟨second, rest⟩⟩
      · cases isThere
      · obtain ⟨_, isFolder⟩ := Node.find?_single.mp isThere
        cases isFolder
      · obtain ⟨rfl, inside⟩ := Node.find?_single.mp isThere
        obtain ⟨rfl, isFile⟩ := Node.find?_single.mp inside
        cases rest with
        | nil => rfl
        | cons third rest => cases isFile
    decide
  have shallow : ¬ Store.IsTooDeep scene.fs 0 ((Path.fromRoot ["p"]).child "c.xml") := by
    rintro ⟨bytes, cause, read, failed⟩
    have absent : scene.fs.read ((Path.fromRoot ["p"]).child "c.xml") =
        .error (.refused .missing "/p/c.xml") := by rfl
    rw [absent] at read
    cases read
  have exact := cached_files_exact scene [] request settings (.text "c.xml") (.fromRoot ["p"])
    entries regular resolved looked accepted unsigned (by decide) (by decide)
    (fun usual => absurd usual (by decide)) clean shallow (fun null => absurd null (by decide))
  refine ⟨regular, resolved, looked, accepted, unsigned, clean, shallow, ?_⟩
  intro same
  have isFile : ((Path.fromRoot ["p"]).child settings.cache.fileName).text = "/p/c.xml" := by
    decide +kernel
  rw [← isFile] at same
  obtain ⟨parts, isRoot, _, directory⟩ :=
    FileSystem.directoryAt_of_resolve regular.cwd resolved looked
  obtain rfl : ["p"] = parts := congrArg Path.parts isRoot
  have found : "/p/sub/c.xml" ∈ files false := by
    rw [show files false = _ from caching_paths resolved directory]
    decide +kernel
  have covers : Covers "c.xml".toList (["sub", "c.xml"].map String.toList) := by
    refine ⟨["sub".toList], ["c.xml".toList], [], rfl, by simp, ?_⟩
    rw [Text.joinWith_singleton]
    exact describes_self _ _ (Nat.le_refl _) (by decide) (by decide)
  have alone := exact.2.mp same ["sub", "c.xml"] .empty rfl found covers
  exact absurd alone (by decide)

end Scan

end MobileAudit
