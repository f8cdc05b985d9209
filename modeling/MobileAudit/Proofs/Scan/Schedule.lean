import MobileAudit.Proofs.Cache.Entries
import MobileAudit.Proofs.Disk.Refusal
import MobileAudit.Proofs.Scan.Turn
import MobileAudit.Scan.Engine

namespace MobileAudit.Scan

open Disk Cache

/-! Scans do not depend on the order in which their tasks take turns.  What a task finds is settled
by its file and by the cache at the beginning, although tasks read what other tasks remember. -/

/-! What becomes of a file. -/

def foundBy (rules : List Rule) (context : FileContext) : List Finding :=
  rules.flatMap fun rule => (findingsOf rule context).value

/-- What the rules report of a content, without findings in development-only code. -/
def analysis (rules : List Rule) (parser : SourceParser) (path : String) (bytes : ByteArray) :
    List Finding :=
  let context := (contextOf parser path (Text.decodeLossy bytes)).value
  (foundBy (rules.filter (·.appliesTo path)) context).filter (isReported context.content.toList)

namespace Plan

def readable (plan : Plan) (path : String) : Bool :=
  (plan.fs.read (.ofText path)).isOk

/-- A file for whose content a cache has an entry. -/
def isServed (plan : Plan) (cache : Option Store) (path : String) : Bool :=
  match plan.fs.read (.ofText path) with
  | .ok bytes => (servedBy cache path bytes).isSome
  | .error _ => false

/-- The findings of a file, given the cache at the beginning of the scan. -/
def findingsOf (plan : Plan) (cache : Option Store) (path : String) : List Finding :=
  match plan.fs.read (.ofText path) with
  | .ok bytes => (servedBy cache path bytes).getD (analysis plan.rules plan.parser path bytes)
  | .error _ => []

/-- The entry for the content of a file as the rules see it now. -/
def entryFor (plan : Plan) (version path : String) (bytes : ByteArray) : Entry where
  hash := Fingerprint.ofBytes bytes
  findings := analysis plan.rules plan.parser path bytes
  timestamp := plan.now
  version

def record (plan : Plan) (store : Store) (path : String) : Store :=
  match plan.fs.read (.ofText path) with
  | .ok bytes =>
      store.set plan.now path (Fingerprint.ofBytes bytes)
        (analysis plan.rules plan.parser path bytes)
  | .error _ => store

def recordAll (plan : Plan) (paths : List String) (store : Store) : Store :=
  paths.foldl plan.record store

theorem recordAll_append (plan : Plan) (paths : List String) (path : String) (store : Store) :
    plan.recordAll (paths ++ [path]) store = plan.record (plan.recordAll paths store) path := by
  simp [recordAll]

theorem record_fixed (plan : Plan) (store : Store) (path : String) :
    (plan.record store path).file = store.file ∧
      (plan.record store path).version = store.version ∧
      (plan.record store path).enabled = store.enabled := by
  unfold record
  split
  · rw [Store.set]
    split <;> simp [Store.replaceFiles]
  · simp

theorem recordAll_fixed (plan : Plan) (paths : List String) (store : Store) :
    (plan.recordAll paths store).file = store.file ∧
      (plan.recordAll paths store).version = store.version ∧
      (plan.recordAll paths store).enabled = store.enabled := by
  induction paths generalizing store with
  | nil => simp [recordAll]
  | cons path paths ih =>
      obtain ⟨file, version, enabled⟩ := ih (plan.record store path)
      obtain ⟨file', version', enabled'⟩ := plan.record_fixed store path
      exact ⟨file.trans file', version.trans version', enabled.trans enabled'⟩

private theorem find?_record (plan : Plan) (store : Store) (path other : String)
    (enabled : store.enabled = true) :
    (plan.record store path).ledger.files.find? other =
      match plan.fs.read (.ofText path) with
      | .ok bytes =>
          if other = path then some (plan.entryFor store.version path bytes)
          else store.ledger.files.find? other
      | .error _ => store.ledger.files.find? other := by
  unfold record
  split
  · rename_i bytes read
    rw [Store.set_enabled _ _ _ _ _ enabled]
    exact Files.find?_put path other _ store.ledger.files
  · rfl

/-- The entries after some files have been remembered, in whatever order. -/
theorem find?_recordAll (plan : Plan) (paths : List String) (store : Store) (other : String)
    (enabled : store.enabled = true) :
    (plan.recordAll paths store).ledger.files.find? other =
      match plan.fs.read (.ofText other) with
      | .ok bytes =>
          if other ∈ paths then some (plan.entryFor store.version other bytes)
          else store.ledger.files.find? other
      | .error _ => store.ledger.files.find? other := by
  induction paths generalizing store with
  | nil => cases plan.fs.read (.ofText other) <;> simp [recordAll]
  | cons path paths ih =>
      obtain ⟨_, version, enabled'⟩ := plan.record_fixed store path
      have tail := ih (plan.record store path) (enabled'.trans enabled)
      rw [version, plan.find?_record store path other enabled] at tail
      rw [recordAll, List.foldl_cons]
      refine tail.trans ?_
      by_cases same : other = path
      · subst same
        cases plan.fs.read (.ofText other) <;> simp
      · cases plan.fs.read (.ofText other) <;> cases plan.fs.read (.ofText path) <;> simp [same]

theorem recordAll_disabled (plan : Plan) (paths : List String) (store : Store)
    (disabled : store.enabled = false) : plan.recordAll paths store = store := by
  induction paths with
  | nil => rfl
  | cons path paths ih =>
      have same : plan.record store path = store := by
        unfold record
        split
        · exact Store.set_disabled _ _ _ _ _ disabled
        · rfl
      rw [recordAll, List.foldl_cons, same]
      exact ih

end Plan

theorem activeStore?_enabled {store : Store} (enabled : store.enabled = true) :
    activeStore? (some store) = some store := by
  rw [activeStore?, Option.filter_some, if_pos enabled]

theorem activeStore?_disabled {store : Store} (disabled : store.enabled = false) :
    activeStore? (some store) = none := by
  rw [activeStore?, Option.filter_some, if_neg (by simp [disabled])]

@[simp] theorem servedBy_none (path : String) (bytes : ByteArray) :
    servedBy none path bytes = none := rfl

theorem servedBy_enabled (store : Store) (path : String) (bytes : ByteArray)
    (enabled : store.enabled = true) :
    servedBy (some store) path bytes =
      ((store.ledger.files.find? path).filter fun entry =>
        entry.hash == Fingerprint.ofBytes bytes && entry.version == store.version).map
        (·.findings) := by
  simp only [servedBy, activeStore?_enabled enabled, Option.bind_some, Store.isValid,
    Store.findings?, Store.find?_enabled store path enabled]
  cases store.ledger.files.find? path with
  | none => rfl
  | some entry =>
      simp only [Option.map_some, Option.filter_some]
      split <;> simp

/-- After files have been remembered a cache serves what it served before, except that it serves
what the rules find in the remembered files. -/
theorem servedBy_recordAll (plan : Plan) (cache : Option Store) (paths : List String)
    (path : String) (bytes : ByteArray) (read : plan.fs.read (.ofText path) = .ok bytes) :
    servedBy (cache.map (plan.recordAll paths)) path bytes =
      if path ∈ paths ∧ (activeStore? cache).isSome then
        some (analysis plan.rules plan.parser path bytes)
      else servedBy cache path bytes := by
  cases cache with
  | none => simp [activeStore?]
  | some store =>
      obtain ⟨_, version, same⟩ := plan.recordAll_fixed paths store
      cases enabled : store.enabled with
      | false =>
          rw [Option.map_some, plan.recordAll_disabled paths store enabled,
            if_neg (by simp [activeStore?_disabled enabled])]
      | true =>
          rw [Option.map_some, servedBy_enabled _ path bytes (same.trans enabled), version,
            plan.find?_recordAll paths store path enabled, read]
          by_cases member : path ∈ paths
          · rw [if_pos ⟨member, by simp [activeStore?_enabled enabled]⟩]
            simp only [if_pos member, Option.filter_some, Plan.entryFor, beq_self_eq_true,
              Bool.and_self, if_true, Option.map_some]
          · rw [if_neg (by simp [member]), servedBy_enabled store path bytes enabled]
            simp [member]

/-! What a task has done so far. -/

/-- How a task stands on a file: it has read the file and is not served from the cache at the
beginning, or has found what the rules find. -/
inductive OnTrack (plan : Plan) (cache : Option Store) (path : String) : Phase → Prop
  | waiting : OnTrack plan cache path .waiting
  | reading : OnTrack plan cache path .reading
  | parsing {bytes : ByteArray} (read : plan.fs.read (.ofText path) = .ok bytes)
      (missed : servedBy cache path bytes = none) :
      OnTrack plan cache path (.parsing (Text.decodeLossy bytes) (hashFor cache bytes))
  | applying {bytes : ByteArray} {context : FileContext} {pending : List Rule}
      {found : List Finding} (read : plan.fs.read (.ofText path) = .ok bytes)
      (missed : servedBy cache path bytes = none)
      (seen : context = (contextOf plan.parser path (Text.decodeLossy bytes)).value)
      (all : found ++ foundBy pending context =
        foundBy (plan.rules.filter (·.appliesTo path)) context) :
      OnTrack plan cache path (.applying context (hashFor cache bytes) pending found)
  | skipped (unreadable : plan.readable path = false) :
      OnTrack plan cache path (.finished .skipped)
  | served (readable : plan.readable path = true) :
      OnTrack plan cache path (.finished (.served (plan.findingsOf cache path)))
  | analysed {bytes : ByteArray} {context : FileContext}
      (read : plan.fs.read (.ofText path) = .ok bytes)
      (missed : servedBy cache path bytes = none) :
      OnTrack plan cache path
        (.finished (.analysed context (analysis plan.rules plan.parser path bytes)))

@[simp] theorem contextOf_path (parser : SourceParser) (path content : String) :
    (contextOf parser path content).value.path = path := by
  unfold contextOf
  split <;> rfl

@[simp] theorem contextOf_content (parser : SourceParser) (path content : String) :
    (contextOf parser path content).value.content = content := by
  unfold contextOf
  split <;> rfl

@[simp] theorem hashFor_recordAll (plan : Plan) (cache : Option Store) (paths : List String)
    (bytes : ByteArray) :
    hashFor (cache.map (plan.recordAll paths)) bytes = hashFor cache bytes := by
  cases cache with
  | none => rfl
  | some store =>
      obtain ⟨_, _, same⟩ := plan.recordAll_fixed paths store
      simp only [hashFor, activeStore?, Option.map_some, Option.filter_some, same]
      split <;> rfl

private theorem remember_recordAll (plan : Plan) (cache : Option Store) (paths : List String)
    (path : String) (bytes : ByteArray) (read : plan.fs.read (.ofText path) = .ok bytes) :
    remember plan (cache.map (plan.recordAll paths)) path (hashFor cache bytes)
        (analysis plan.rules plan.parser path bytes) =
      cache.map (plan.recordAll (paths ++ [path])) := by
  cases cache with
  | none => rfl
  | some store =>
      cases enabled : store.enabled with
      | false =>
          rw [hashFor, activeStore?_disabled enabled, Option.map_some, Option.map_some,
            plan.recordAll_disabled _ store enabled, plan.recordAll_disabled _ store enabled]
          rfl
      | true =>
          rw [hashFor, activeStore?_enabled enabled, Option.map_some, Option.map_some,
            Option.map_some, plan.recordAll_append, Plan.record, read]
          rfl

theorem Plan.isServed_eq {plan : Plan} {path : String} {bytes : ByteArray}
    (read : plan.fs.read (.ofText path) = .ok bytes) (cache : Option Store) :
    plan.isServed cache path = (servedBy cache path bytes).isSome := by
  rw [Plan.isServed, read]

theorem Plan.findingsOf_eq {plan : Plan} {path : String} {bytes : ByteArray}
    (read : plan.fs.read (.ofText path) = .ok bytes) (cache : Option Store) :
    plan.findingsOf cache path =
      (servedBy cache path bytes).getD (analysis plan.rules plan.parser path bytes) := by
  rw [Plan.findingsOf, read]

theorem Plan.readable_of_read {plan : Plan} {path : String} {bytes : ByteArray}
    (read : plan.fs.read (.ofText path) = .ok bytes) : plan.readable path = true := by
  rw [Plan.readable, read]
  rfl

/-- What a turn of a task on its track leads to, given which files have been remembered before. -/
structure Onward (plan : Plan) (cache : Option Store) (recorded : List String)
    (task moved : Task) (cache' : Option Store) : Prop where
  onTrack : OnTrack plan cache moved.path moved.phase
  path : moved.path = task.path
  store : cache' = cache.map (plan.recordAll
    (recorded ++ if moved.phase.isAnalysed then [moved.path] else []))
  served : moved.phase.isServed = true →
    plan.isServed cache moved.path = true ∨ moved.path ∈ recorded

private theorem Onward.plain {plan : Plan} {cache : Option Store} {recorded : List String}
    {path : String} {before after : Phase} (onTrack : OnTrack plan cache path after)
    (noServed : after.isServed = false) (noAnalysed : after.isAnalysed = false) :
    Onward plan cache recorded ⟨path, before⟩ ⟨path, after⟩
      (cache.map (plan.recordAll recorded)) := by
  refine ⟨onTrack, rfl, ?_, ?_⟩
  · simp [noAnalysed]
  · simp [noServed]

private theorem Turn.onward {plan : Plan} {cache : Option Store} {recorded : List String}
    {task moved : Task} {cache' : Option Store}
    (turn : Turn plan (cache.map (plan.recordAll recorded)) task moved cache')
    (unserved : ∀ path ∈ recorded, plan.isServed cache path = false)
    (onTrack : OnTrack plan cache task.path task.phase) :
    Onward plan cache recorded task moved cache' := by
  cases turn with
  | start => exact .plain .reading rfl rfl
  | unreadable failed =>
      refine .plain (.skipped ?_) rfl rfl
      rw [Plan.readable, failed]
      rfl
  | @hit path bytes findings read served =>
      have readable := Plan.readable_of_read read
      have isServed := Plan.isServed_eq read cache
      have all := Plan.findingsOf_eq read cache
      rw [servedBy_recordAll plan cache recorded path bytes read] at served
      split at served
      · rename_i remembered
        have missed := unserved path remembered.1
        rw [isServed, Option.isSome_eq_false_iff, Option.isNone_iff_eq_none] at missed
        rw [missed, Option.getD_none] at all
        cases served
        rw [← all]
        exact ⟨.served readable, rfl, by simp [Phase.isAnalysed], fun _ => .inr remembered.1⟩
      · rw [served, Option.getD_some] at all
        rw [← all]
        refine ⟨.served readable, rfl, by simp [Phase.isAnalysed], fun _ => .inl ?_⟩
        rw [isServed, served, Option.isSome_some]
  | @miss path bytes read missed =>
      rw [servedBy_recordAll plan cache recorded path bytes read] at missed
      split at missed
      · cases missed
      · rw [hashFor_recordAll]
        exact .plain (.parsing read missed) rfl rfl
  | @parse path content hash =>
      cases onTrack with
      | parsing read missed =>
          exact .plain (.applying read missed rfl (List.nil_append _)) rfl rfl
  | @apply path context hash rule pending found =>
      cases onTrack with
      | applying read missed seen all =>
          refine .plain (.applying read missed seen ?_) rfl rfl
          rw [← all, foundBy, foundBy, List.flatMap_cons, List.append_assoc]
  | @conclude path context hash found =>
      cases onTrack with
      | @applying bytes _ _ _ read missed seen all =>
          have samePath : context.path = path := by
            rw [seen, contextOf_path]
          have findings : found.filter (isReported context.content.toList) =
              analysis plan.rules plan.parser path bytes := by
            rw [foundBy, List.flatMap_nil, List.append_nil] at all
            rw [analysis, ← seen, ← all]
          rw [samePath, findings, remember_recordAll plan cache recorded path bytes read]
          exact ⟨.analysed read missed, rfl, rfl, by simp [Phase.isServed]⟩

/-! What a run has done so far. -/

/-- A run that has come from its start: every task is on its track, the cache has taken up the
findings of the tasks that applied rules, and the counters count. -/
structure Reached (plan : Plan) (paths : List String) (cache : Option Store) (run : Run) :
    Prop where
  paths : run.tasks.map (·.path) = paths
  onTrack : ∀ task ∈ run.tasks, OnTrack plan cache task.path task.phase
  recorded : ∃ recorded, run.cache = cache.map (plan.recordAll recorded) ∧
    ∀ path, path ∈ recorded ↔ ∃ task ∈ run.tasks, task.path = path ∧ task.phase.isAnalysed = true
  reused : ∀ task ∈ run.tasks, task.phase.isServed = true →
    plan.isServed cache task.path = true ∨
      ∃ other ∈ run.tasks, other.path = task.path ∧ other.phase.isAnalysed = true
  completed : run.completed = run.tasks.countP (·.phase.isFinished)
  skipped : run.skipped = run.tasks.countP (·.phase.isSkipped)
  cached : run.cached = run.tasks.countP (·.phase.isServed)

theorem reached_start (plan : Plan) (paths : List String) (cache : Option Store) :
    Reached plan paths cache (Run.start paths cache) := by
  have waiting : ∀ task ∈ (Run.start paths cache).tasks, task.phase = .waiting := by
    intro task member
    obtain ⟨path, _, rfl⟩ := List.mem_map.mp member
    rfl
  refine ⟨by simp [Run.start, Function.comp_def], ?_, ⟨[], ?_, ?_⟩, ?_, ?_, ?_, ?_⟩
  · intro task member
    rw [waiting task member]
    exact .waiting
  · cases cache <;> rfl
  · simp only [List.not_mem_nil, false_iff]
    rintro path ⟨task, member, _, analysed⟩
    rw [waiting task member] at analysed
    cases analysed
  · intro task member served
    rw [waiting task member] at served
    cases served
  · refine (List.countP_eq_zero.mpr fun task member => ?_).symm
    rw [waiting task member]
    simp [Phase.isFinished]
  · refine (List.countP_eq_zero.mpr fun task member => ?_).symm
    rw [waiting task member]
    simp [Phase.isSkipped]
  · refine (List.countP_eq_zero.mpr fun task member => ?_).symm
    rw [waiting task member]
    simp [Phase.isServed]

theorem countP_set_unfinished {tasks : List Task} {i : Nat} {task : Task}
    (isTask : tasks[i]? = some task) (unfinished : task.phase.isFinished = false) (moved : Task)
    (counts : Phase → Bool) (final : ∀ phase, counts phase = true → phase.isFinished = true) :
    (tasks.set i moved).countP (counts ·.phase) =
      tasks.countP (counts ·.phase) + if counts moved.phase then 1 else 0 := by
  obtain ⟨inside, here⟩ := List.getElem?_eq_some_iff.mp isTask
  have before : counts task.phase = false := by
    cases counted : counts task.phase with
    | false => rfl
    | true =>
        have finished := final _ counted
        rw [unfinished] at finished
        cases finished
  rw [List.countP_set inside, here, before]
  simp

private theorem countP_moved {plan : Plan} {run next : Run} {i : Nat} {task moved : Task}
    (turn : Run.Moved plan run next i task moved) (counts : Phase → Bool)
    (final : ∀ phase, counts phase = true → phase.isFinished = true) :
    next.tasks.countP (counts ·.phase) =
      run.tasks.countP (counts ·.phase) + if counts moved.phase then 1 else 0 := by
  rw [turn.tasks]
  exact countP_set_unfinished turn.here turn.turn.unfinished moved counts final

private theorem mem_moved {plan : Plan} {run next : Run} {i : Nat} {task moved other : Task}
    (turn : Run.Moved plan run next i task moved) (member : other ∈ run.tasks)
    (finished : other.phase.isFinished = true) : other ∈ next.tasks := by
  obtain ⟨j, there⟩ := List.getElem?_of_mem member
  have apart : i ≠ j := by
    rintro rfl
    rw [turn.here] at there
    cases there
    rw [turn.turn.unfinished] at finished
    cases finished
  rw [turn.tasks]
  exact List.mem_of_getElem? (by rw [List.getElem?_set_ne apart, there])

theorem Phase.finished_of_skipped (phase : Phase) (skipped : phase.isSkipped = true) :
    phase.isFinished = true := by
  unfold isSkipped at skipped
  split at skipped
  · rfl
  · cases skipped

theorem Phase.finished_of_served (phase : Phase) (served : phase.isServed = true) :
    phase.isFinished = true := by
  unfold isServed at served
  split at served
  · rfl
  · cases served

private theorem Phase.finished_of_analysed (phase : Phase) (analysed : phase.isAnalysed = true) :
    phase.isFinished = true := by
  unfold isAnalysed at analysed
  split at analysed
  · rfl
  · cases analysed

theorem OnTrack.unserved {plan : Plan} {cache : Option Store} {path : String} {phase : Phase}
    (onTrack : OnTrack plan cache path phase) (analysed : phase.isAnalysed = true) :
    plan.isServed cache path = false := by
  cases onTrack with
  | analysed read missed => rw [Plan.isServed_eq read, missed, Option.isSome_none]
  | _ => cases analysed

private theorem Reached.moved {plan : Plan} {paths : List String} {cache : Option Store}
    {run next : Run} {i : Nat} {task moved : Task} (reached : Reached plan paths cache run)
    (turn : Run.Moved plan run next i task moved) : Reached plan paths cache next := by
  obtain ⟨recorded, store, analysed⟩ := reached.recorded
  have inRun : task ∈ run.tasks := List.mem_of_getElem? turn.here
  have inNext : moved ∈ next.tasks := by
    rw [turn.tasks]
    exact List.mem_set (List.getElem?_eq_some_iff.mp turn.here).1 moved
  have unserved : ∀ path ∈ recorded, plan.isServed cache path = false := by
    intro path member
    obtain ⟨other, inside, rfl, isAnalysed⟩ := (analysed path).mp member
    exact (reached.onTrack other inside).unserved isAnalysed
  have taken := turn.turn
  rw [store] at taken
  have onward := taken.onward unserved (reached.onTrack task inRun)
  have cases' : ∀ other ∈ next.tasks, other ∈ run.tasks ∨ other = moved := by
    intro other member
    rw [turn.tasks] at member
    exact List.mem_or_eq_of_mem_set member
  have analysed' : ∀ path, path ∈ recorded ++
      (if moved.phase.isAnalysed then [moved.path] else []) ↔
      ∃ task ∈ next.tasks, task.path = path ∧ task.phase.isAnalysed = true := by
    intro path
    rw [List.mem_append, analysed]
    constructor
    · rintro (⟨other, member, same, isAnalysed⟩ | new)
      · exact ⟨other, mem_moved turn member (other.phase.finished_of_analysed isAnalysed), same,
          isAnalysed⟩
      · split at new
        · rename_i isAnalysed
          exact ⟨moved, inNext, (List.mem_singleton.mp new).symm, isAnalysed⟩
        · cases new
    · rintro ⟨other, member, same, isAnalysed⟩
      obtain old | rfl := cases' other member
      · exact .inl ⟨other, old, same, isAnalysed⟩
      · rw [if_pos isAnalysed]
        exact .inr (List.mem_singleton.mpr same.symm)
  refine ⟨?_, ?_, ⟨_, onward.store, analysed'⟩, ?_, ?_, ?_, ?_⟩
  · rw [turn.tasks, List.map_set, onward.path, ← List.map_set, Run.set_here turn.here,
      reached.paths]
  · intro other member
    obtain old | rfl := cases' other member
    · exact reached.onTrack other old
    · exact onward.onTrack
  · intro other member served
    obtain old | rfl := cases' other member
    · obtain initially | ⟨source, inside, same, isAnalysed⟩ := reached.reused other old served
      · exact .inl initially
      · exact .inr ⟨source, mem_moved turn inside (source.phase.finished_of_analysed isAnalysed),
          same, isAnalysed⟩
    · obtain initially | remembered := onward.served served
      · exact .inl initially
      · obtain ⟨source, inside, same, isAnalysed⟩ := (analysed _).mp remembered
        exact .inr ⟨source, mem_moved turn inside (source.phase.finished_of_analysed isAnalysed),
          same, isAnalysed⟩
  · rw [turn.completed, reached.completed, countP_moved turn _ fun _ finished => finished]
  · rw [turn.skipped, reached.skipped, countP_moved turn _ Phase.finished_of_skipped]
  · rw [turn.cached, reached.cached, countP_moved turn _ Phase.finished_of_served]

theorem reached_follow (plan : Plan) (paths : List String) (cache : Option Store)
    (schedule : List Nat) :
    Reached plan paths cache ((Run.start paths cache).follow plan schedule) :=
  Run.follow_induct (fun _ _ _ _ _ turn reached => reached.moved turn) schedule _
    (reached_start plan paths cache)

/-! What a complete run has found. -/

theorem Plan.findingsOf_unreadable {plan : Plan} {path : String}
    (unreadable : plan.readable path = false) (cache : Option Store) :
    plan.findingsOf cache path = [] := by
  rw [Plan.readable] at unreadable
  rw [Plan.findingsOf]
  cases read : plan.fs.read (.ofText path) with
  | ok bytes =>
      rw [read] at unreadable
      cases unreadable
  | error e => rfl

private theorem Plan.readable_of_isServed {plan : Plan} {path : String} {cache : Option Store}
    (served : plan.isServed cache path = true) : plan.readable path = true := by
  rw [Plan.isServed] at served
  rw [Plan.readable]
  cases read : plan.fs.read (.ofText path) with
  | ok bytes => rfl
  | error e =>
      rw [read] at served
      cases served

namespace OnTrack

variable {plan : Plan} {cache : Option Store} {path : String} {phase : Phase}

private theorem findings (onTrack : OnTrack plan cache path phase)
    (finished : phase.isFinished = true) :
    phase.findings = plan.findingsOf cache path := by
  cases onTrack with
  | skipped unreadable => exact (Plan.findingsOf_unreadable unreadable cache).symm
  | served readable => rfl
  | analysed read missed =>
      rw [Plan.findingsOf_eq read, missed, Option.getD_none]
      rfl
  | _ => cases finished

theorem skipped_iff (onTrack : OnTrack plan cache path phase)
    (finished : phase.isFinished = true) : phase.isSkipped = !plan.readable path := by
  cases onTrack with
  | skipped unreadable =>
      rw [unreadable]
      rfl
  | served readable =>
      rw [readable]
      rfl
  | analysed read missed =>
      rw [Plan.readable_of_read read]
      rfl
  | _ => cases finished

end OnTrack

namespace Reached

variable {plan : Plan} {paths : List String} {cache : Option Store} {run : Run}

theorem finished (complete : run.isComplete = true) :
    ∀ task ∈ run.tasks, task.phase.isFinished = true := by
  rw [Run.isComplete, List.all_eq_true] at complete
  exact complete

theorem findings (reached : Reached plan paths cache run) (complete : run.isComplete = true) :
    run.findings = paths.flatMap (plan.findingsOf cache) := by
  rw [Run.findings, ← reached.paths, List.flatMap_map, List.flatMap_def, List.flatMap_def,
    List.map_congr_left]
  intro task member
  exact (reached.onTrack task member).findings (finished complete task member)

theorem skipped_count (reached : Reached plan paths cache run)
    (complete : run.isComplete = true) :
    run.skipped = paths.countP fun path => !plan.readable path := by
  rw [reached.skipped, ← reached.paths, List.countP_map]
  apply List.countP_congr
  intro task member
  rw [(reached.onTrack task member).skipped_iff (finished complete task member)]
  rfl

/-- The files whose findings have been remembered in the end: those that can be read and for whose
content the cache had no entry. -/
theorem recorded_iff (reached : Reached plan paths cache run) (complete : run.isComplete = true)
    (path : String) :
    (∃ task ∈ run.tasks, task.path = path ∧ task.phase.isAnalysed = true) ↔
      path ∈ paths ∧ plan.readable path = true ∧ plan.isServed cache path = false := by
  constructor
  · rintro ⟨task, member, rfl, analysed⟩
    have onTrack := reached.onTrack task member
    refine ⟨?_, ?_, onTrack.unserved analysed⟩
    · rw [← reached.paths]
      exact List.mem_map.mpr ⟨task, member, rfl⟩
    · cases readable : plan.readable task.path with
      | true => rfl
      | false =>
          have skipped := onTrack.skipped_iff (finished complete task member)
          rw [readable] at skipped
          cases phase : task.phase with
          | finished outcome => cases outcome <;> simp_all [Phase.isSkipped, Phase.isAnalysed]
          | _ => simp_all [Phase.isAnalysed]
  · rintro ⟨member, readable, unserved⟩
    rw [← reached.paths] at member
    obtain ⟨task, inside, rfl⟩ := List.mem_map.mp member
    have ended := finished complete task inside
    have skipped := (reached.onTrack task inside).skipped_iff ended
    rw [readable] at skipped
    cases served : task.phase.isServed with
    | true =>
        obtain initially | reused := reached.reused task inside served
        · rw [unserved] at initially
          cases initially
        · exact reused
    | false =>
        refine ⟨task, inside, rfl, ?_⟩
        cases phase : task.phase with
        | finished outcome =>
            cases outcome <;>
              simp_all [Phase.isSkipped, Phase.isServed, Phase.isAnalysed]
        | _ => simp_all [Phase.isFinished]

private theorem find?_final (reached : Reached plan paths cache run)
    (complete : run.isComplete = true)
    {store : Store} (before : cache = some store) :
    ∃ final, run.cache = some final ∧ final.file = store.file ∧
      final.version = store.version ∧ final.enabled = store.enabled ∧
      ∀ path, final.ledger.files.find? path =
        if store.enabled = true ∧ path ∈ paths ∧ plan.isServed cache path = false then
          match plan.fs.read (.ofText path) with
          | .ok bytes => some (plan.entryFor store.version path bytes)
          | .error _ => store.ledger.files.find? path
        else store.ledger.files.find? path := by
  obtain ⟨recorded, final, analysed⟩ := reached.recorded
  subst before
  obtain ⟨file, version, enabled⟩ := plan.recordAll_fixed recorded store
  refine ⟨_, final, file, version, enabled, ?_⟩
  intro path
  cases isEnabled : store.enabled with
  | false => rw [plan.recordAll_disabled recorded store isEnabled, if_neg (by simp)]
  | true =>
      rw [plan.find?_recordAll recorded store path isEnabled]
      have member := (analysed path).trans (reached.recorded_iff complete path)
      cases read : plan.fs.read (.ofText path) with
      | error e => simp
      | ok bytes =>
          have readable := Plan.readable_of_read read
          simp [member, readable]

private theorem task_unique {tasks : List Task} (distinct : (tasks.map (·.path)).Nodup)
    {one other : Task} (oneInside : one ∈ tasks) (otherInside : other ∈ tasks)
    (same : one.path = other.path) : one = other := by
  obtain ⟨i, here⟩ := List.getElem?_of_mem oneInside
  obtain ⟨j, there⟩ := List.getElem?_of_mem otherInside
  have inside : i < (tasks.map (·.path)).length := by
    rw [List.length_map]
    exact (List.getElem?_eq_some_iff.mp here).1
  have index : i = j := by
    refine (List.getElem?_inj inside distinct).mp ?_
    rw [List.getElem?_map, List.getElem?_map, here, there, Option.map_some, Option.map_some, same]
  rw [index, there] at here
  exact (Option.some.inj here).symm

/-- If no file is listed twice, a task is served exactly if the cache had an entry at the
beginning. -/
theorem served_iff (reached : Reached plan paths cache run) (complete : run.isComplete = true)
    (distinct : paths.Nodup) (task : Task) (member : task ∈ run.tasks) :
    task.phase.isServed = plan.isServed cache task.path := by
  have onTrack := reached.onTrack task member
  have ended := finished complete task member
  cases served : task.phase.isServed with
  | true =>
      obtain initially | ⟨other, inside, same, analysed⟩ := reached.reused task member served
      · exact initially.symm
      · rw [← reached.paths] at distinct
        obtain rfl := task_unique distinct inside member same
        cases phase : other.phase with
        | finished outcome => cases outcome <;> simp_all [Phase.isServed, Phase.isAnalysed]
        | _ => simp_all [Phase.isServed]
  | false =>
      cases initially : plan.isServed cache task.path with
      | false => rfl
      | true =>
          have readable := Plan.readable_of_isServed initially
          have skipped := onTrack.skipped_iff ended
          rw [readable] at skipped
          cases analysed : task.phase.isAnalysed with
          | true =>
              rw [onTrack.unserved analysed] at initially
              cases initially
          | false =>
              cases phase : task.phase with
              | finished outcome =>
                  cases outcome <;>
                    simp_all [Phase.isSkipped, Phase.isServed, Phase.isAnalysed]
              | _ => simp_all [Phase.isFinished]

theorem cached_count (reached : Reached plan paths cache run) (complete : run.isComplete = true)
    (distinct : paths.Nodup) : run.cached = paths.countP (plan.isServed cache) := by
  rw [reached.cached]
  conv => rhs; rw [← reached.paths, List.countP_map]
  apply List.countP_congr
  intro task member
  rw [reached.served_iff complete distinct task member]
  rfl

end Reached

/-! What a scan reports. -/

namespace Engine

theorem follow_completes (engine : Engine) (scene : Scene) (paths : List String)
    (listener : Listener) (positive : 0 < engine.concurrency) (turns : List Nat) :
    ((Run.start paths engine.cache).follow (engine.planOf scene paths.length listener)
      (turns ++ Run.drain (engine.planOf scene paths.length listener))).isComplete = true := by
  rw [Run.follow_append]
  refine Run.follow_drain (Run.follow_bounded turns (Run.bounded_start _ paths engine.cache)) ?_
    positive
  rw [Run.follow_length]
  simp [Run.start, planOf]

/-- A scan reports what its run has counted, unless the path of the cache file has a null
character. -/
theorem conclude_result (engine : Engine) (scene : Scene) (run : Run) (total : Nat) :
    (engine.conclude scene run total).result = .ok (reportOf run total) ∨
      (engine.conclude scene run total).result = .error (.disk .nullByte) ∧
        ∃ store, run.cache = some store ∧ store.file.hasNull = true := by
  unfold conclude
  simp only
  split
  · rename_i error escaped
    unfold saveCache at escaped
    simp only at escaped
    split at escaped
    · cases escaped
    · rename_i store cache
      obtain ⟨rfl, null⟩ := Store.save_escaped escaped
      exact .inr ⟨rfl, store, cache, null⟩
  · exact .inl rfl

theorem conclude_cache (engine : Engine) (scene : Scene) (run : Run) (total : Nat) {store : Store}
    (cache : run.cache = some store) :
    (engine.conclude scene run total).engine.cache =
      some (store.save scene.fs scene.now).store := by
  have saved : ({ engine with cache := run.cache }.saveCache scene).engine.cache =
      some (store.save scene.fs scene.now).store := by
    unfold saveCache
    simp only [cache]
  unfold conclude
  simp only
  split <;> exact saved

end Engine

/-- A scan of files can always be finished, and however the tasks have taken their turns, it reports
the findings of the files in their order: none of a file that cannot be read, those of the cache if
it had an entry for the content at the beginning, and otherwise what the rules report.  Nor do the
number of skipped files and the final entries of the cache depend on the turns, and no more does the
number of files that were served from the cache, if no file is listed twice. -/
theorem scan_independent_of_schedule (engine : Engine) (scene : Scene) (paths : List String)
    (listener : Engine.Listener) (positive : 0 < engine.concurrency) (schedule : List Nat) :
    let plan := engine.planOf scene paths.length listener
    (∃ more, ((Run.start paths engine.cache).follow plan (schedule ++ more)).isComplete = true) ∧
    (((Run.start paths engine.cache).follow plan schedule).isComplete = true →
      let run := (Run.start paths engine.cache).follow plan schedule
      let ended := engine.conclude scene run paths.length
      ((∃ report, ended.result = .ok report ∧
          report.findings = paths.flatMap (plan.findingsOf engine.cache) ∧
          report.skippedFiles = countOf (paths.countP fun path => !plan.readable path) ∧
          (paths.Nodup →
            report.cachedFiles = countOf (paths.countP (plan.isServed engine.cache)))) ∨
        ended.result = .error (.disk .nullByte) ∧
          ∃ store, engine.cache = some store ∧ store.file.hasNull = true) ∧
      ∀ store, engine.cache = some store →
        ∃ final, ended.engine.cache = some final ∧
          ∀ path, final.ledger.files.find? path =
            if store.enabled = true ∧ path ∈ paths ∧ plan.isServed engine.cache path = false then
              match plan.fs.read (.ofText path) with
              | .ok bytes => some (plan.entryFor store.version path bytes)
              | .error _ => store.ledger.files.find? path
            else store.ledger.files.find? path) := by
  intro plan
  refine ⟨⟨Run.drain plan, engine.follow_completes scene paths listener positive schedule⟩, ?_⟩
  intro complete run ended
  have reached : Reached plan paths engine.cache run :=
    reached_follow plan paths engine.cache schedule
  constructor
  · obtain reported | ⟨failed, store, cache, null⟩ :=
      engine.conclude_result scene run paths.length
    · refine .inl ⟨_, reported, reached.findings complete, ?_, ?_⟩
      · exact congrArg countOf (reached.skipped_count complete)
      · intro distinct
        exact congrArg countOf (reached.cached_count complete distinct)
    · obtain ⟨recorded, same, _⟩ := reached.recorded
      refine .inr ⟨failed, ?_⟩
      rw [cache] at same
      obtain ⟨before, initial, rfl⟩ := Option.map_eq_some_iff.mp same.symm
      refine ⟨before, initial, ?_⟩
      rw [← (plan.recordAll_fixed recorded before).1]
      exact null
  · intro store initial
    obtain ⟨final, cache, _, _, _, entries⟩ := reached.find?_final complete initial
    refine ⟨_, engine.conclude_cache scene run paths.length cache, ?_⟩
    intro path
    rw [Store.save_files]
    exact entries path

/-- A rule that reports every script once. -/
def everyScript : Rule where
  id := "EVERY_SCRIPT"
  description := "A script"
  severity := .low
  fileTypes := [".js"]
  apply := fun context => .ofFindings
    [{ ruleId := "EVERY_SCRIPT", description := "A script", severity := .low, path := context.path }]

/-- Two tasks on one file and one on a missing file, between each other. -/
theorem scan_of_repeated_file :
    let engine : Engine :=
      { groups := [⟨.storage, [everyScript]⟩]
        concurrency := 2
        cache := some (.create (.fromRoot ["p"]) "1" defaultCacheFile 0) }
    let scene : Scene :=
      ⟨{ disk := .folder [("p", .folder [("a.js", .file (Text.encode "x"))])] }, 5⟩
    let paths := ["/p/a.js", "/p/b.js", "/p/a.js"]
    let run := (Run.start paths engine.cache).follow (engine.planOf scene 3 none)
      [0, 1, 0, 1, 2, 0, 2, 0, 2, 0, 2, 2, 2, 2]
    0 < engine.concurrency ∧ run.isComplete = true ∧
      ∃ report, (engine.conclude scene run 3).result = .ok report ∧
        report.findings.map (·.path) = ["/p/a.js", "/p/a.js"] ∧
        report.skippedFiles = some 1 := by
  intro engine scene paths run
  have complete : run.isComplete = true := by decide +kernel
  obtain ⟨_, settled⟩ := scan_independent_of_schedule engine scene paths none (by decide)
    [0, 1, 0, 1, 2, 0, 2, 0, 2, 0, 2, 2, 2, 2]
  refine ⟨by decide, complete, ?_⟩
  obtain ⟨report, reported, findings, skipped, _⟩ | ⟨_, store, same, null⟩ := (settled complete).1
  · refine ⟨report, reported, ?_, ?_⟩
    · rw [findings]
      decide +kernel
    · rw [skipped]
      decide +kernel
  · cases same
    exact absurd null (by decide +kernel)

end MobileAudit.Scan
