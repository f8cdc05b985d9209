import MobileAudit.Proofs.Scan.Project

namespace MobileAudit.Scan

open Disk Cache Exclusion

/-! Histories of a project: scans, and what others do to the disk between them.  Every entry of the
cache goes back to an earlier scan of the same version. -/

/-! Scans of a project and what happens between them. -/

/-- A scan of a project as it is asked for, with the fates of its writes. -/
structure Call where
  settings : Settings := {}
  version : String := toolVersion
  groups : List RuleGroup := Rule.catalog
  parser : SourceParser := .absent
  clearCache : Bool := false
  listener : Engine.Listener := none
  turns : List Nat := []
  fates : List WriteFate := []

namespace Call

def request (call : Call) (project : String) : Request where
  path := project
  settings := some call.settings
  version := call.version
  groups := call.groups
  parser := call.parser
  clearCache := call.clearCache
  listener := call.listener
  turns := call.turns

def sceneOf (call : Call) (scene : Scene) : Scene :=
  { scene with fs := { scene.fs with fates := call.fates } }

def run (call : Call) (environment : Settings.Environment) (project : String) (scene : Scene) :
    Ended :=
  scanProject (call.sceneOf scene) environment (call.request project)

/-- What a call reports, or why it fails. -/
def findings (call : Call) (environment : Settings.Environment) (project : String)
    (scene : Scene) : Except Failure (List Finding) :=
  (call.run environment project scene).result.map (·.findings)

/-- The same call with a disabled cache. -/
def uncached (call : Call) : Call :=
  { call with
    settings := { call.settings with cache := { call.settings.cache with enabled := false } } }

def engine (call : Call) : Engine := .ofSettings call.settings call.groups call.parser

/-- What the rules of a call report of a content. -/
def analysis (call : Call) (path : String) (bytes : ByteArray) : List Finding :=
  Scan.analysis call.engine.rules call.parser path bytes

end Call

/-- What happens to a project. -/
inductive Event where
  | write (path : String) (content : ByteArray)
  | makeDirectory (path : String)
  | delete (path : String)
  | clock (now : Int)
  | scan (call : Call)

namespace Event

def wholePath (scene : Scene) (path : String) : Path := (Path.ofText path).absolute scene.fs.cwd

/-- The scene with what the disk has made of a change.  What it refuses changes nothing. -/
def outcome (scene : Scene) : Except DiskError FileSystem → Scene
  | .ok fs => { scene with fs }
  | .error _ => scene

/-- What an event leads to. -/
def apply (environment : Settings.Environment) (project : String) (scene : Scene) : Event → Scene
  | write path content => outcome scene (scene.fs.write (wholePath scene path) content)
  | makeDirectory path => outcome scene (scene.fs.makeDirectory (wholePath scene path))
  | delete path =>
      { scene with
        fs := { scene.fs with disk := scene.fs.disk.erase (wholePath scene path).parts } }
  | clock now => { scene with now }
  | scan call => { scene with fs := (call.run environment project scene).fs }

def call? : Event → Option Call
  | scan call => some call
  | _ => none

end Event

def after (environment : Settings.Environment) (project : String) (start : Scene)
    (events : List Event) : Scene :=
  events.foldl (Event.apply environment project) start

/-- The project's directory, by the names that lead to it from the root of the disk. -/
def rootOf (cwd : List String) (project : String) : List String :=
  (Path.ofText project).absoluteParts cwd

/-- Only scans write the cache file, all under its usual name, and no pattern takes it back among the
files of the project. -/
def Event.Admissible (cwd root : List String) : Event → Prop
  | .write path _ => rootOf cwd path ≠ cachePlace root
  | .scan call => call.settings.cache.fileName = defaultCacheFile ∧
      ∀ pattern ∈ call.settings.scan.exclude, reincludes pattern = false
  | _ => True

/-! One scan. -/

/-- A call reports what it would report without a cache, except for files whose findings are
remembered for their content. -/
def Call.Reports (call : Call) (environment : Settings.Environment) (project : String)
    (scene : Scene) (remembered : String → ByteArray → List Finding → Prop) : Prop :=
  (∃ failure, call.findings environment project scene = .error failure ∧
    call.uncached.findings environment project scene = .error failure) ∨
  ∃ (paths : List String) (served : String → List Finding),
    call.findings environment project scene = .ok (paths.flatMap served) ∧
    call.uncached.findings environment project scene =
      .ok (paths.flatMap (call.engine.fresh (call.sceneOf scene).fs)) ∧
    ∀ path ∈ paths, served path = call.engine.fresh (call.sceneOf scene).fs path ∨
      ∃ bytes, (call.sceneOf scene).fs.read (.ofText path) = .ok bytes ∧
        remembered path bytes (served path)

section

variable (environment : Settings.Environment) (project : String) {scene : Scene}
  {contents : ByteArray → Prop} {holds weaker : String → Entry → Prop} {cwd root : List String}

private theorem Intact.sceneOf (call : Call) (intact : Intact contents holds cwd root scene.fs) :
    Intact contents holds cwd root (call.sceneOf scene).fs :=
  ⟨intact.proper, intact.cwd, intact.contents, intact.stored⟩

private theorem Call.run_cases (call : Call) (proper : ∀ name ∈ scene.fs.cwd, ProperName name) :
    (∃ failure, ∀ other : Call, other.fates = call.fates →
      other.run environment project scene = stopped (call.sceneOf scene) failure) ∨
    (∃ path, ∀ other : Call, other.fates = call.fates →
      other.run environment project scene =
        other.engine.scanFiles (call.sceneOf scene) [path] other.listener other.turns) ∨
    ∃ entries,
      (call.sceneOf scene).fs.DirectoryAt (.fromRoot (rootOf scene.fs.cwd project)) entries ∧
      ∀ other : Call, other.fates = call.fates →
        other.run environment project scene =
          other.engine.scanRoot (call.sceneOf scene) (.fromRoot (rootOf scene.fs.cwd project))
            other.settings.cache other.version other.clearCache other.listener other.turns := by
  have same : ∀ other : Call, other.fates = call.fates →
      other.sceneOf scene = call.sceneOf scene := by
    intro other fates
    rw [sceneOf, sceneOf, fates]
  cases resolved : (call.sceneOf scene).fs.resolve (.ofText project) with
  | error e =>
      refine .inl ⟨.disk e, ?_⟩
      intro other fates
      rw [run, same other fates, scanProject]
      simp only [request, resolved]
  | ok target =>
      cases looked : (call.sceneOf scene).fs.look target with
      | error e =>
          refine .inl ⟨.disk e, ?_⟩
          intro other fates
          rw [run, same other fates, scanProject]
          simp only [request, resolved, looked]
      | ok found =>
          cases found with
          | none =>
              refine .inl ⟨.pathMissing project, ?_⟩
              intro other fates
              rw [run, same other fates, scanProject]
              simp only [request, resolved, looked]
          | some node =>
              have isTarget : target = .fromRoot (rootOf scene.fs.cwd project) := by
                unfold FileSystem.resolve at resolved
                split at resolved
                · cases resolved
                · cases resolved
                  rfl
              cases node with
              | file content =>
                  refine .inr (.inl ⟨target.text, ?_⟩)
                  intro other fates
                  rw [run, same other fates, scanProject]
                  simp only [request, resolved, looked, settingsOf]
                  rfl
              | folder entries =>
                  subst isTarget
                  refine .inr (.inr ⟨entries, ?_, ?_⟩)
                  · refine FileSystem.directoryAt_of_look rfl ?_ looked
                    exact FileSystem.forward_of_proper (Path.proper_absoluteParts proper project)
                  · intro other fates
                    rw [run, same other fates, scanProject]
                    simp only [request, resolved, looked, settingsOf]
                    rfl

theorem Call.Reports.mono {call : Call} {remembered explained : String → ByteArray →
    List Finding → Prop} (reports : call.Reports environment project scene remembered)
    (implies : ∀ path bytes found, remembered path bytes found → explained path bytes found) :
    call.Reports environment project scene explained := by
  obtain failed | ⟨paths, served, cached, uncached, accounted⟩ := reports
  · exact .inl failed
  · refine .inr ⟨paths, served, cached, uncached, ?_⟩
    intro path member
    obtain fresh | ⟨bytes, read, found⟩ := accounted path member
    · exact .inl fresh
    · exact .inr ⟨bytes, read, implies path bytes _ found⟩

/-! A call that scans the directory of the project: what it comes to if its files cannot be found,
and if they can. -/

section

variable {call : Call} {entries : List (String × Node)}
  (runs : ∀ other : Call, other.fates = call.fates →
    other.run environment project scene =
      other.engine.scanRoot (call.sceneOf scene) (.fromRoot root) other.settings.cache
        other.version other.clearCache other.listener other.turns)
  (directory : (call.sceneOf scene).fs.DirectoryAt (.fromRoot root) entries)
  (here : Intact contents holds cwd root (call.sceneOf scene).fs)
  (admissible : (Event.scan call).Admissible cwd root)
  (properRoot : ∀ name ∈ root, ProperName name)
  (implies : ∀ path entry, holds path entry → weaker path entry)

private theorem Call.uncached_of_disabled (disabled : call.settings.cache.enabled = false) :
    call.uncached = call := by
  rw [Call.uncached, ← disabled]

include runs

private theorem Call.findings_unfound {failure : Discovery.Failure}
    (unfound : (Discovery.walk (call.sceneOf scene).fs call.engine.excluded
      (.fromRoot root)).value = .error failure) :
    call.uncached.findings environment project scene = .error (.ofDiscovery failure) := by
  rw [Call.findings, runs call.uncached rfl]
  exact congrArg (Except.map (·.findings)) (call.engine.scanRoot_uncached_failed
    (call.sceneOf scene) call.uncached.settings.cache call.version call.clearCache call.listener
    call.turns rfl rfl unfound).1

private theorem Call.findings_found {group : FileGroup}
    (walked : (Discovery.walk (call.sceneOf scene).fs call.engine.excluded
      (.fromRoot root)).value = .ok group) :
    call.uncached.findings environment project scene =
      .ok (group.all.flatMap (call.engine.fresh (call.sceneOf scene).fs)) := by
  have positive : 0 < call.engine.concurrency := Engine.slots_positive _
  obtain ⟨⟨report, reported, fresh⟩, _⟩ := call.engine.scanRoot_uncached (call.sceneOf scene)
    call.uncached.settings.cache call.version call.clearCache call.listener call.turns positive
    rfl rfl walked
  rw [Call.findings, runs call.uncached rfl, ← fresh]
  exact congrArg (Except.map (·.findings)) reported

include directory here admissible properRoot implies

private theorem Call.traced_unfound {failure : Discovery.Failure}
    (unfound : (Discovery.walk (call.sceneOf scene).fs call.engine.excluded
      (.fromRoot root)).value = .error failure) :
    Intact contents weaker cwd root (call.run environment project scene).fs ∧
    call.findings environment project scene =
      call.uncached.findings environment project scene := by
  obtain ⟨fileName, noneBack⟩ := admissible
  have failed := Call.findings_unfound environment project runs unfound
  cases enabled : call.settings.cache.enabled with
  | false =>
      refine ⟨?_, by rw [Call.uncached_of_disabled enabled]⟩
      rw [runs call rfl, (call.engine.scanRoot_uncached_failed (call.sceneOf scene)
        call.settings.cache call.version call.clearCache call.listener call.turns rfl enabled
        unfound).2]
      exact here.mono implies
  | true =>
      obtain ⟨result, intact⟩ := call.engine.scanRoot_cached_failed (call.sceneOf scene)
        call.settings.cache call.version call.clearCache call.listener call.turns enabled
        fileName noneBack properRoot directory here unfound
      rw [← runs call rfl] at result intact
      refine ⟨intact.mono implies, ?_⟩
      rw [failed, Call.findings, result]
      rfl

private theorem Call.traced_found {group : FileGroup}
    (new : ∀ path bytes, contents bytes → weaker path
      ⟨Fingerprint.ofBytes bytes, call.analysis path bytes, scene.now, call.version⟩)
    (walked : (Discovery.walk (call.sceneOf scene).fs call.engine.excluded
      (.fromRoot root)).value = .ok group) :
    Intact contents weaker cwd root (call.run environment project scene).fs ∧
    call.Reports environment project scene fun path bytes found =>
      contents bytes ∧ ∃ entry, holds path entry ∧ entry.hash = Fingerprint.ofBytes bytes ∧
        entry.version = call.version ∧ entry.findings = found := by
  obtain ⟨fileName, noneBack⟩ := admissible
  have positive : 0 < call.engine.concurrency := Engine.slots_positive _
  have found := Call.findings_found environment project runs walked
  cases enabled : call.settings.cache.enabled with
  | false =>
      have found' := found
      rw [Call.uncached_of_disabled enabled] at found'
      refine ⟨?_, .inr ⟨_, _, found', found, fun _ _ => .inl rfl⟩⟩
      rw [runs call rfl, (call.engine.scanRoot_uncached (call.sceneOf scene)
        call.settings.cache call.version call.clearCache call.listener call.turns positive rfl
        enabled walked).2]
      exact here.mono implies
  | true =>
      obtain ⟨⟨report, served, reported, findings, accounted⟩, disk⟩ :=
        call.engine.scanRoot_cached (call.sceneOf scene) call.settings.cache call.version
          call.clearCache call.listener call.turns positive enabled fileName noneBack
          properRoot directory here implies new walked
      rw [← runs call rfl] at disk reported
      refine ⟨disk, .inr ⟨_, served, ?_, found, ?_⟩⟩
      · rw [Call.findings, reported, ← findings]
        rfl
      · intro path member
        obtain fresh | ⟨bytes, entry, read, isContent, remembered⟩ := accounted path member
        · exact .inl fresh
        · exact .inr ⟨bytes, read, isContent, entry, remembered⟩

end

/-- A call keeps the disk intact, and remembered findings come from entries of the cache. -/
theorem Call.run_traced (call : Call) (intact : Intact contents holds cwd root scene.fs)
    (properCwd : ∀ name ∈ cwd, ProperName name) (isRoot : root = rootOf cwd project)
    (admissible : (Event.scan call).Admissible cwd root)
    (implies : ∀ path entry, holds path entry → weaker path entry)
    (new : ∀ path bytes, contents bytes → weaker path
      ⟨Fingerprint.ofBytes bytes, call.analysis path bytes, scene.now, call.version⟩) :
    Intact contents weaker cwd root (call.run environment project scene).fs ∧
    call.Reports environment project scene fun path bytes found =>
      contents bytes ∧ ∃ entry, holds path entry ∧ entry.hash = Fingerprint.ofBytes bytes ∧
        entry.version = call.version ∧ entry.findings = found := by
  have here := intact.sceneOf call
  have properRoot : ∀ name ∈ root, ProperName name := by
    rw [isRoot]
    exact Path.proper_absoluteParts properCwd project
  have properScene : ∀ name ∈ scene.fs.cwd, ProperName name := by
    rw [intact.cwd]
    exact properCwd
  have positive : 0 < call.engine.concurrency := Engine.slots_positive _
  have kept := here.mono implies
  obtain ⟨failure, runs⟩ | ⟨path, runs⟩ | ⟨entries, directory, runs⟩ :=
    call.run_cases environment project properScene
  · refine ⟨?_, .inl ⟨failure, ?_, ?_⟩⟩
    · rw [runs call rfl]
      exact kept
    · rw [Call.findings, runs call rfl]
      rfl
    · rw [Call.findings, runs call.uncached rfl]
      rfl
  · obtain ⟨⟨report, reported, fresh⟩, disk⟩ := call.engine.scanFiles_uncached
      (call.sceneOf scene) [path] call.listener call.turns positive rfl
    have found := congrArg (Except.map (·.findings)) reported
    rw [call.engine.findingsOf_none] at fresh
    refine ⟨?_, .inr ⟨[path], call.engine.fresh (call.sceneOf scene).fs, ?_, ?_,
      fun _ _ => .inl rfl⟩⟩
    · rw [runs call rfl, disk]
      exact kept
    · rw [Call.findings, runs call rfl, ← fresh]
      exact found
    · rw [Call.findings, runs call.uncached rfl, ← fresh]
      exact found
  · rw [intact.cwd, ← isRoot] at directory runs
    cases walked : (Discovery.walk (call.sceneOf scene).fs call.engine.excluded
        (.fromRoot root)).value with
    | error failure =>
        have failed := Call.findings_unfound environment project runs walked
        obtain ⟨disk, same⟩ := Call.traced_unfound environment project runs directory here
          admissible properRoot implies walked
        exact ⟨disk, .inl ⟨_, same.trans failed, failed⟩⟩
    | ok group =>
        exact Call.traced_found environment project runs directory here admissible properRoot
          implies new walked

end

/-! Whole histories. -/

def callsOf (events : List Event) : List Call := events.filterMap Event.call?

/-- A content that is on the disk at the beginning or is written later. -/
def Occurs (start : Scene) (history : List Event) (bytes : ByteArray) : Prop :=
  (∃ place, start.fs.disk.find? place = some (.file bytes)) ∨ ∃ path, .write path bytes ∈ history

/-- A history of a project that begins without a cache file, in which only scans write this file and
different contents have different fingerprints. -/
structure Undisturbed (project : String) (start : Scene) (history : List Event) : Prop where
  proper : start.fs.disk.Proper
  properCwd : ∀ name ∈ start.fs.cwd, ProperName name
  noCache : ∀ bytes,
    start.fs.disk.find? (cachePlace (rootOf start.fs.cwd project)) ≠ some (.file bytes)
  admissible : ∀ event ∈ history,
    event.Admissible start.fs.cwd (rootOf start.fs.cwd project)
  noCollision : ∀ one other, Occurs start history one → Occurs start history other →
    Fingerprint.ofBytes one = Fingerprint.ofBytes other → one = other

/-- An entry that tells what one of some calls, of the entry's version, found in the content that
belongs to its fingerprint. -/
def Recorded (contents : ByteArray → Prop) (calls : List Call) (path : String) (entry : Entry) :
    Prop :=
  ∀ bytes, contents bytes → Fingerprint.ofBytes bytes = entry.hash →
    ∃ call ∈ calls, call.version = entry.version ∧ entry.findings = call.analysis path bytes

theorem Recorded.mono {contents : ByteArray → Prop} {calls more : List Call} {path : String}
    {entry : Entry} (recorded : Recorded contents calls path entry) (subset : calls ⊆ more) :
    Recorded contents more path entry := by
  intro bytes isContent hash
  obtain ⟨call, member, found⟩ := recorded bytes isContent hash
  exact ⟨call, subset member, found⟩

section

variable (environment : Settings.Environment) {project : String} {contents : ByteArray → Prop}
  {cwd root : List String}

theorem Call.run_recorded {calls : List Call} {scene : Scene} (call : Call)
    (intact : Intact contents (Recorded contents calls) cwd root scene.fs)
    (properCwd : ∀ name ∈ cwd, ProperName name) (isRoot : root = rootOf cwd project)
    (admissible : (Event.scan call).Admissible cwd root)
    (noCollision : ∀ one other, contents one → contents other →
      Fingerprint.ofBytes one = Fingerprint.ofBytes other → one = other) :
    Intact contents (Recorded contents (calls ++ [call])) cwd root
      (call.run environment project scene).fs ∧
    call.Reports environment project scene fun path bytes found =>
      ∃ origin ∈ calls, origin.version = call.version ∧ found = origin.analysis path bytes := by
  have extended : ∀ path entry, Recorded contents calls path entry →
      Recorded contents (calls ++ [call]) path entry :=
    fun _ _ recorded => recorded.mono (List.subset_append_left calls [call])
  have new : ∀ path bytes, contents bytes → Recorded contents (calls ++ [call]) path
      ⟨Fingerprint.ofBytes bytes, call.analysis path bytes, scene.now, call.version⟩ := by
    intro path bytes isContent other isOther hash
    rw [noCollision other bytes isOther isContent hash]
    exact ⟨call, by simp, rfl, rfl⟩
  obtain ⟨kept, reports⟩ :=
    call.run_traced environment project intact properCwd isRoot admissible extended new
  refine ⟨kept, reports.mono environment project ?_⟩
  rintro path bytes found ⟨isContent, entry, recorded, hash, version, findings⟩
  obtain ⟨origin, earlier, sameVersion, analysed⟩ := recorded bytes isContent hash.symm
  exact ⟨origin, earlier, sameVersion.trans version, findings.symm.trans analysed⟩

private theorem Event.apply_intact {calls : List Call} {scene : Scene} (event : Event)
    (intact : Intact contents (Recorded contents calls) cwd root scene.fs)
    (properCwd : ∀ name ∈ cwd, ProperName name) (isRoot : root = rootOf cwd project)
    (admissible : event.Admissible cwd root)
    (occurs : ∀ path bytes, event = .write path bytes → contents bytes)
    (noCollision : ∀ one other, contents one → contents other →
      Fingerprint.ofBytes one = Fingerprint.ofBytes other → one = other) :
    Intact contents (Recorded contents (calls ++ event.call?.toList)) cwd root
      (event.apply environment project scene).fs := by
  have whole : ∀ path, wholePath scene path = .fromRoot (rootOf cwd path) := by
    intro path
    rw [wholePath, Path.absolute, rootOf, intact.cwd]
  have proper : ∀ path, ∀ name ∈ rootOf cwd path, ProperName name :=
    Path.proper_absoluteParts properCwd
  have kept : Intact contents (Recorded contents (calls ++ [])) cwd root scene.fs := by
    rw [List.append_nil]
    exact intact
  cases event with
  | write path content =>
      cases written : scene.fs.write (.fromRoot (rootOf cwd path)) content with
      | error e =>
          simp only [apply, whole, written]
          exact kept
      | ok fs =>
          have put := FileSystem.write_ok rfl (FileSystem.forward_of_proper (proper path)) written
          simp only [apply, whole, written, outcome, put]
          exact kept.put (proper path) admissible (occurs path content rfl)
  | makeDirectory path =>
      cases made : scene.fs.makeDirectory (.fromRoot (rootOf cwd path)) with
      | error e =>
          simp only [apply, whole, made]
          exact kept
      | ok fs =>
          have put := FileSystem.makeDirectory_ok rfl
            (FileSystem.forward_of_proper (proper path)) made
          simp only [apply, whole, made, outcome, put]
          exact kept.putEmpty (proper path)
  | delete path => exact kept.erase _
  | clock now => exact kept
  | scan call =>
      exact (call.run_recorded environment intact properCwd isRoot admissible noCollision).1

private theorem after_intact (events : List Event) (properCwd : ∀ name ∈ cwd, ProperName name)
    (isRoot : root = rootOf cwd project) (admissible : ∀ event ∈ events, event.Admissible cwd root)
    (occurs : ∀ path bytes, .write path bytes ∈ events → contents bytes)
    (noCollision : ∀ one other, contents one → contents other →
      Fingerprint.ofBytes one = Fingerprint.ofBytes other → one = other) :
    ∀ {calls : List Call} {scene : Scene},
      Intact contents (Recorded contents calls) cwd root scene.fs →
        Intact contents (Recorded contents (calls ++ callsOf events)) cwd root
          (after environment project scene events).fs := by
  induction events with
  | nil =>
      intro calls scene intact
      rw [callsOf, List.filterMap_nil, List.append_nil]
      exact intact
  | cons event events ih =>
      intro calls scene intact
      have next := event.apply_intact environment intact properCwd isRoot
        (admissible event (by simp))
        (fun path bytes isWrite => occurs path bytes (by simp [isWrite])) noCollision
      have rest := ih (fun other member => admissible other (by simp [member]))
        (fun path bytes member => occurs path bytes (by simp [member])) next
      have calls' : calls ++ callsOf (event :: events) =
          calls ++ event.call?.toList ++ callsOf events := by
        rw [callsOf, List.filterMap_cons, List.append_assoc]
        cases event.call? <;> rfl
      rw [calls']
      exact rest

end

namespace Undisturbed

variable (environment : Settings.Environment) {project : String} {start : Scene}
  {history before later : List Event} {call : Call}

private theorem start_intact (undisturbed : Undisturbed project start history) :
    Intact (Occurs start history) (Recorded (Occurs start history) []) start.fs.cwd
      (rootOf start.fs.cwd project) start.fs := by
  refine ⟨undisturbed.proper, rfl, ?_, ?_⟩
  · intro place bytes _ found
    exact .inl ⟨place, found⟩
  · intro bytes found
    exact absurd found (undisturbed.noCache bytes)

private theorem before_intact (undisturbed : Undisturbed project start history)
    (split : history = before ++ later) :
    Intact (Occurs start history) (Recorded (Occurs start history) (callsOf before)) start.fs.cwd
      (rootOf start.fs.cwd project) (after environment project start before).fs := by
  refine after_intact environment before undisturbed.properCwd rfl ?_ ?_ undisturbed.noCollision
    undisturbed.start_intact
  · intro event member
    exact undisturbed.admissible event (by simp [split, member])
  · intro path bytes member
    exact .inr ⟨path, by simp [split, member]⟩

/-- In a history, remembered findings are those of an earlier call of the same version. -/
theorem traced (undisturbed : Undisturbed project start history)
    (split : history = before ++ .scan call :: later) :
    call.Reports environment project (after environment project start before)
      fun path bytes found => ∃ origin ∈ callsOf before,
        origin.version = call.version ∧ found = origin.analysis path bytes := by
  have intact := undisturbed.before_intact environment split
  have admissible := undisturbed.admissible (.scan call) (by simp [split])
  exact (call.run_recorded environment intact undisturbed.properCwd rfl admissible
    undisturbed.noCollision).2

end Undisturbed

/-- A project whose only file is written before its scans. -/
def emptyProject : Scene := ⟨{ disk := .folder [("p", .folder [])] }, 0⟩

private theorem emptyProject_noFile (place : List String) (bytes : ByteArray) :
    emptyProject.fs.disk.find? place ≠ some (.file bytes) := by
  match place with
  | [] => simp [emptyProject]
  | [name] =>
      rw [emptyProject, Node.find?_folder_cons, List.lookup_cons]
      cases name == "p" <;> simp
  | name :: other :: rest =>
      rw [emptyProject, Node.find?_folder_cons, List.lookup_cons]
      cases name == "p" <;> simp [Node.find?_folder_cons]

private theorem emptyProject_proper : emptyProject.fs.disk.Proper := by
  refine .folder _ ?_ ?_
  · intro entry member
    rw [List.mem_singleton.mp member]
    decide
  · intro entry member
    rw [List.mem_singleton.mp member]
    exact .empty

/-- A history in which a single content is written to the project's files. -/
theorem emptyProject_undisturbed {history : List Event} (content : ByteArray)
    (admissible : ∀ event ∈ history, event.Admissible [] ["p"])
    (single : ∀ path bytes, .write path bytes ∈ history → bytes = content) :
    Undisturbed "/p" emptyProject history := by
  have root : rootOf emptyProject.fs.cwd "/p" = ["p"] := by decide
  have only : ∀ bytes, Occurs emptyProject history bytes → bytes = content := by
    rintro bytes (⟨place, found⟩ | ⟨path, written⟩)
    · exact absurd found (emptyProject_noFile place bytes)
    · exact single path bytes written
  refine ⟨emptyProject_proper, by simp [emptyProject], ?_, ?_, ?_⟩
  · intro bytes
    exact emptyProject_noFile _ bytes
  · rw [root]
    exact admissible
  · intro one other oneOccurs otherOccurs _
    rw [only one oneOccurs, only other otherOccurs]

end MobileAudit.Scan
