import MobileAudit.Proofs.Scan.Schedule

namespace MobileAudit.Scan

open Disk Cache

/-! The books of a scan.  Slots, counters and progress are right after every step, whatever the
tasks meet with. -/

/-! Steps in a world that does not keep still. -/

/-- A task ends with an error that no step of it has provided for. -/
def Run.fail (run : Run) (plan : Plan) (i : Nat) (path reason : String) : Run :=
  run.skip plan i path (.fileFailed (Fault.of (.scan (some path)) reason).text)

/-- A step of a scan under way: a task takes its turn, or a task that holds a slot fails.  What the
disk holds, the time, the rules and the parser may be others at each turn, and nothing is said of
what a failure leaves in the cache. -/
inductive Step (plan : Plan) (run : Run) : Run → Prop
  | turn {next : Run} {fs : FileSystem} {now : Int} {rules : List Rule} {parser : SourceParser}
      {i : Nat} (taken : run.step? { plan with fs, now, rules, parser } i = some next) :
      Step plan run next
  | accident {i : Nat} {task : Task} {cache : Option Store} {reason : String}
      (here : run.tasks[i]? = some task) (running : task.phase.isRunning = true) :
      Step plan run ({ run with cache }.fail plan i task.path reason)

inductive Steps (plan : Plan) (start : Run) : Run → Prop
  | refl : Steps plan start start
  | step {run next : Run} (before : Steps plan start run) (step : Step plan run next) :
      Steps plan start next

theorem Steps.follow {plan : Plan} {start run : Run} (before : Steps plan start run)
    {fs : FileSystem} {now : Int} {rules : List Rule} {parser : SourceParser}
    (schedule : List Nat) :
    Steps plan start (run.follow { plan with fs, now, rules, parser } schedule) := by
  induction schedule generalizing run with
  | nil => exact before
  | cons i schedule ih =>
      rw [Run.follow_cons]
      apply ih
      cases taken : run.step? { plan with fs, now, rules, parser } i with
      | none => exact before
      | some next => exact before.step (.turn taken)

/-! What the listener is told. -/

/-- What a listener has been told when that many tasks are complete. -/
def Plan.announced (plan : Plan) (completed : Nat) : List Progress :=
  match plan.listener with
  | none => []
  | some _ => (List.range completed).map fun earlier : Nat => ⟨earlier + 1, plan.total⟩

private theorem Plan.announced_silent {plan : Plan} (silent : plan.listener = none)
    (completed : Nat) :
    plan.announced completed = [] := by
  rw [announced, silent]

theorem Plan.announced_succ {plan : Plan} {listen : Progress → Option String}
    (isListener : plan.listener = some listen) (completed : Nat) :
    plan.announced (completed + 1) =
      plan.announced completed ++ [⟨(completed + 1 : Nat), plan.total⟩] := by
  simp only [announced, isListener, List.range_succ, List.map_append]
  rfl

def Announces (plan : Plan) (run : Run) : Prop := run.progress = plan.announced run.completed

/-- A listener that fails has been told nevertheless. -/
theorem Announces.finish {plan : Plan} {run : Run} (announces : Announces plan run) (i : Nat)
    (path : String) (outcome : Outcome) : Announces plan (run.finish plan i path outcome) := by
  unfold Announces at announces
  unfold Run.finish Run.report
  split
  · rename_i silent
    rw [Plan.announced_silent silent] at announces
    exact announces.trans (Plan.announced_silent silent _).symm
  · rename_i listen isListener
    have told : run.progress ++ [⟨(run.completed + 1 : Nat), plan.total⟩] =
        plan.announced (run.completed + 1) := by
      rw [announces, Plan.announced_succ isListener]
    simp only
    split <;> exact told

private theorem Announces.step? {plan : Plan} {run next : Run} {i : Nat}
    (announces : Announces plan run)
    (taken : run.step? plan i = some next) : Announces plan next := by
  unfold Run.step? at taken
  split at taken
  · cases taken
  · rename_i task here
    split at taken
    · split at taken
      · cases taken
        exact announces
      · cases taken
    · cases taken
      unfold Run.afterRead
      split
      · exact Announces.finish (by exact announces) _ _ _
      · exact Announces.finish (by exact announces) _ _ _
      · simp only
        split
        · exact Announces.finish (by exact announces) _ _ _
        · exact announces
    · cases taken
      exact announces
    · cases taken
      exact announces
    · cases taken
      exact Announces.finish (by exact announces) _ _ _
    · cases taken

/-! What a step does to the books. -/

def Phase.IsOf (path : String) : Phase → Prop
  | applying context _ _ _ => context.path = path
  | _ => True

private theorem Turn.isOf {plan : Plan} {cache cache' : Option Store} {task moved : Task}
    (turn : Turn plan cache task moved cache') (own : task.phase.IsOf task.path) :
    moved.path = task.path ∧ moved.phase.IsOf task.path := by
  cases turn with
  | parse => exact ⟨rfl, contextOf_path _ _ _⟩
  | apply => exact ⟨rfl, own⟩
  | conclude => exact ⟨own, trivial⟩
  | _ => exact ⟨rfl, trivial⟩

/-- One task has moved on, and this has been booked. -/
structure Booked (plan : Plan) (run next : Run) (i : Nat) (task moved : Task) : Prop where
  here : run.tasks[i]? = some task
  tasks : next.tasks = run.tasks.set i moved
  unfinished : task.phase.isFinished = false
  slot : task.phase = .waiting → run.running < plan.slots
  own : task.phase.IsOf task.path → moved.path = task.path ∧ moved.phase.IsOf task.path
  completed : next.completed = run.completed + if moved.phase.isFinished then 1 else 0
  skipped : next.skipped = run.skipped + if moved.phase.isSkipped then 1 else 0
  cached : next.cached = run.cached + if moved.phase.isServed then 1 else 0
  announces : Announces plan run → Announces plan next

private theorem Step.booked {plan : Plan} {run next : Run} (step : Step plan run next) :
    ∃ i task moved, Booked plan run next i task moved := by
  cases step with
  | @turn _ fs now rules parser i taken =>
      obtain ⟨task, moved, turn⟩ := Run.step?_moved taken
      refine ⟨i, task, moved, turn.here, turn.tasks, turn.turn.unfinished, turn.slot,
        turn.turn.isOf, turn.completed, turn.skipped, turn.cached, ?_⟩
      intro announces
      have before : Announces { plan with fs, now, rules, parser } run := announces
      exact before.step? taken
  | @accident i task cache reason here running =>
      obtain ⟨tasks, _, completed, skipped, cached⟩ :=
        Run.finish_eq ({ run with cache, skipped := run.skipped + 1 }.log
          (.fileFailed (Fault.of (.scan (some task.path)) reason).text)) plan i task.path .skipped
      refine ⟨i, task, ⟨task.path, .finished .skipped⟩, here, tasks, ?_, ?_,
        fun _ => ⟨rfl, trivial⟩, completed, skipped, cached, ?_⟩
      · cases phase : task.phase with
        | finished outcome =>
            rw [phase] at running
            cases running
        | _ => rfl
      · intro waiting
        rw [waiting] at running
        cases running
      · intro announces
        exact Announces.finish (by exact announces) _ _ _

private theorem Phase.running_of_unfinished {phase : Phase} (unfinished : phase.isFinished = false)
    (busy : phase ≠ .waiting) : phase.isRunning = true := by
  cases phase with
  | waiting => exact absurd rfl busy
  | finished outcome => cases unfinished
  | _ => rfl

private theorem Booked.running_le {plan : Plan} {run next : Run} {i : Nat} {task moved : Task}
    (booked : Booked plan run next i task moved) (slots : run.running ≤ plan.slots) :
    next.running ≤ plan.slots := by
  obtain ⟨inside, here⟩ := List.getElem?_eq_some_iff.mp booked.here
  have running : next.running =
      run.running - (if task.phase.isRunning = true then 1 else 0) +
        if moved.phase.isRunning = true then 1 else 0 := by
    rw [Run.running, booked.tasks, List.countP_set inside, here]
    rfl
  have atMostOne : (if moved.phase.isRunning = true then 1 else 0) ≤ 1 := by
    split <;> omega
  by_cases waiting : task.phase = .waiting
  · have slot := booked.slot waiting
    omega
  · have holds := Phase.running_of_unfinished booked.unfinished waiting
    have positive : 0 < run.running :=
      List.countP_pos_iff.mpr ⟨task, List.mem_of_getElem? booked.here, holds⟩
    rw [if_pos holds] at running
    omega

/-! What holds after every step. -/

/-- The books of a run agree with its tasks. -/
structure Accounted (plan : Plan) (paths : List String) (run : Run) : Prop where
  paths : run.tasks.map (·.path) = paths
  own : ∀ task ∈ run.tasks, task.phase.IsOf task.path
  slots : run.running ≤ plan.slots
  completed : run.completed = run.tasks.countP (·.phase.isFinished)
  skipped : run.skipped = run.tasks.countP (·.phase.isSkipped)
  cached : run.cached = run.tasks.countP (·.phase.isServed)
  announces : Announces plan run

private theorem accounted_start (plan : Plan) (paths : List String) (cache : Option Store) :
    Accounted plan paths (Run.start paths cache) := by
  have started := reached_start plan paths cache
  have waiting : ∀ task ∈ (Run.start paths cache).tasks, task.phase = .waiting := by
    intro task member
    obtain ⟨path, _, rfl⟩ := List.mem_map.mp member
    rfl
  refine ⟨started.paths, ?_, ?_, started.completed, started.skipped, started.cached, ?_⟩
  · intro task member
    rw [waiting task member]
    trivial
  · have idle : (Run.start paths cache).running = 0 := by
      refine List.countP_eq_zero.mpr fun task member => ?_
      rw [waiting task member]
      exact Bool.false_ne_true
    omega
  · unfold Announces Plan.announced
    split <;> rfl

private theorem Accounted.step {plan : Plan} {paths : List String} {run next : Run}
    (accounted : Accounted plan paths run) (step : Step plan run next) :
    Accounted plan paths next := by
  obtain ⟨i, task, moved, booked⟩ := step.booked
  obtain ⟨samePath, own⟩ :=
    booked.own (accounted.own task (List.mem_of_getElem? booked.here))
  have counted := countP_set_unfinished booked.here booked.unfinished moved
  refine ⟨?_, ?_, booked.running_le accounted.slots, ?_, ?_, ?_,
    booked.announces accounted.announces⟩
  · rw [booked.tasks, List.map_set, samePath, ← accounted.paths]
    have there : (run.tasks.map (·.path))[i]? = some task.path := by
      rw [List.getElem?_map, booked.here]
      rfl
    obtain ⟨inside, same⟩ := List.getElem?_eq_some_iff.mp there
    rw [← same, List.set_getElem_self]
  · intro other member
    rw [booked.tasks] at member
    obtain inRun | rfl := List.mem_or_eq_of_mem_set member
    · exact accounted.own other inRun
    · rwa [samePath]
  · rw [booked.completed, booked.tasks, counted _ fun _ => id, accounted.completed]
  · rw [booked.skipped, booked.tasks, counted _ Phase.finished_of_skipped, accounted.skipped]
  · rw [booked.cached, booked.tasks, counted _ Phase.finished_of_served, accounted.cached]

private theorem Steps.accounted {plan : Plan} {paths : List String} {cache : Option Store}
    {run : Run}
    (steps : Steps plan (Run.start paths cache) run) : Accounted plan paths run := by
  induction steps with
  | refl => exact accounted_start plan paths cache
  | step _ step ih => exact ih.step step

/-! Scans go on to their ends. -/

namespace Run

/-- If a task is not finished, one can take its turn: one that holds a slot, or any if none does. -/
theorem exists_turn {run : Run} {plan : Plan} (positive : 0 < plan.slots)
    (incomplete : run.isComplete = false) : ∃ i next, run.step? plan i = some next := by
  by_cases idle : run.running = 0
  · rw [isComplete, List.all_eq_false] at incomplete
    obtain ⟨task, member, unfinished⟩ := incomplete
    obtain ⟨i, here⟩ := List.getElem?_of_mem member
    exact ⟨i, step?_isSome run plan i task here (by simpa using unfinished) fun _ => by omega⟩
  · obtain ⟨task, member, running⟩ := List.countP_pos_iff.mp (Nat.pos_of_ne_zero idle)
    obtain ⟨i, here⟩ := List.getElem?_of_mem member
    refine ⟨i, step?_isSome run plan i task here ?_ ?_⟩
    · cases finished : task.phase.isFinished with
      | false => rfl
      | true =>
          rw [Phase.not_running_of_finished finished] at running
          cases running
    · intro waiting
      rw [waiting] at running
      cases running

def remaining (rules : Nat) (run : Run) : Nat :=
  run.tasks.foldr (fun task others => task.phase.remaining rules + others) 0

private theorem foldr_set_lt {tasks : List Task} {i : Nat} {task moved : Task} {size : Task → Nat}
    (here : tasks[i]? = some task) (less : size moved < size task) :
    (tasks.set i moved).foldr (fun task others => size task + others) 0 <
      tasks.foldr (fun task others => size task + others) 0 := by
  induction tasks generalizing i with
  | nil => cases here
  | cons first tasks ih =>
      cases i with
      | zero =>
          cases here
          simpa using less
      | succ i => simpa using ih here

/-- Wherever a scan has come, there are turns that end it. -/
theorem exists_complete {plan : Plan} (positive : 0 < plan.slots) (run : Run) :
    ∃ turns, (run.follow plan turns).isComplete = true := by
  induction size : run.remaining plan.rules.length using Nat.strongRecOn generalizing run with
  | ind size ih =>
      cases complete : run.isComplete with
      | true => exact ⟨[], complete⟩
      | false =>
          obtain ⟨i, next, taken⟩ := exists_turn positive complete
          obtain ⟨task, moved, turn⟩ := step?_moved taken
          have fewer : next.remaining plan.rules.length < run.remaining plan.rules.length := by
            rw [remaining, turn.tasks]
            exact foldr_set_lt turn.here turn.turn.remaining_lt
          obtain ⟨turns, ended⟩ := ih _ (size ▸ fewer) next rfl
          refine ⟨i :: turns, ?_⟩
          rw [follow_cons, taken]
          exact ended

end Run

/-! What a complete scan has counted. -/

theorem Phase.counted_once {phase : Phase} (finished : phase.isFinished = true) :
    phase.isSkipped.toNat + phase.isServed.toNat + phase.isAnalysed.toNat = 1 := by
  cases phase with
  | finished outcome => cases outcome <;> rfl
  | _ => cases finished

private theorem countP_outcomes (tasks : List Task)
    (finished : ∀ task ∈ tasks, task.phase.isFinished = true) :
    tasks.length = tasks.countP (·.phase.isSkipped) + tasks.countP (·.phase.isServed) +
      tasks.countP (·.phase.isAnalysed) := by
  induction tasks with
  | nil => rfl
  | cons task tasks ih =>
      rw [List.forall_mem_cons] at finished
      have once := Phase.counted_once finished.1
      have rest := ih finished.2
      have counts (b : Bool) : (if b = true then 1 else 0) = b.toNat := by cases b <;> rfl
      simp only [List.countP_cons, List.length_cons, counts]
      omega

private theorem Accounted.length {plan : Plan} {paths : List String} {run : Run}
    (accounted : Accounted plan paths run) : run.tasks.length = paths.length := by
  rw [← accounted.paths, List.length_map]

private theorem Accounted.complete {plan : Plan} {paths : List String} {run : Run}
    (accounted : Accounted plan paths run) (complete : run.isComplete = true) :
    run.completed = paths.length ∧
      paths.length = run.skipped + run.cached + run.tasks.countP (·.phase.isAnalysed) := by
  have finished := Reached.finished complete
  have outcomes := countP_outcomes run.tasks finished
  rw [accounted.length] at outcomes
  refine ⟨?_, ?_⟩
  · rw [accounted.completed, List.countP_eq_length.mpr finished, accounted.length]
  · rw [accounted.skipped, accounted.cached, outcomes]

theorem countOf_eq (n : Nat) : countOf n = if n = 0 then none else some (n : Int) := by
  unfold countOf
  cases n <;> rfl

/-- However the tasks of a scan take their turns, whatever they meet with and whatever becomes of the
listener: never do more tasks hold slots than there are, nor does a slot get lost, so that a scan can
always be brought to its end; the listener is told of every number of completed tasks once, in order;
and in the end every file has been counted in one way. -/
theorem run_accounted (engine : Engine) (concurrency : Int) (scene : Scene) (paths : List String)
    (listener : Engine.Listener) :
    let engine := engine.setConcurrency concurrency
    let plan := engine.planOf scene paths.length listener
    (∀ turns, ∃ run, Steps plan (Run.start paths engine.cache) run ∧ run.isComplete = true ∧
      engine.scanFiles scene paths listener turns = engine.conclude scene run paths.length) ∧
    ∀ run, Steps plan (Run.start paths engine.cache) run →
      (run.running : Int) ≤ max 1 concurrency ∧
      run.completed = run.tasks.countP (·.phase.isFinished) ∧
      run.tasks.map (·.path) = paths ∧
      run.progress = plan.announced run.completed ∧
      (run.isComplete = false → ∃ i next, run.step? plan i = some next) ∧
      (∃ turns, (run.follow plan turns).isComplete = true) ∧
      (run.isComplete = true →
        run.progress = plan.announced paths.length ∧
        (∀ task ∈ run.tasks,
          task.phase.isSkipped.toNat + task.phase.isServed.toNat + task.phase.isAnalysed.toNat = 1) ∧
        run.skipped = run.tasks.countP (·.phase.isSkipped) ∧
        run.cached = run.tasks.countP (·.phase.isServed) ∧
        paths.length = run.skipped + run.cached + run.tasks.countP (·.phase.isAnalysed) ∧
        ((∃ report, (engine.conclude scene run paths.length).result = .ok report ∧
            report.scannedFiles = paths.length ∧
            report.skippedFiles = (if run.skipped = 0 then none else some (run.skipped : Int)) ∧
            report.cachedFiles = (if run.cached = 0 then none else some (run.cached : Int))) ∨
          (engine.conclude scene run paths.length).result = .error (.disk .nullByte) ∧
            ∃ store, run.cache = some store ∧ store.file.hasNull = true)) := by
  intro engine plan
  have positive : 0 < plan.slots := by
    change 0 < (max 1 concurrency).toNat
    omega
  refine ⟨fun turns => ⟨_, Steps.refl.follow _,
    engine.follow_completes scene paths listener positive turns, rfl⟩, ?_⟩
  intro run steps
  have accounted := steps.accounted
  refine ⟨?_, accounted.completed, accounted.paths, accounted.announces,
    Run.exists_turn positive, Run.exists_complete positive run, ?_⟩
  · have slots : run.running ≤ (max 1 concurrency).toNat := accounted.slots
    omega
  · intro complete
    obtain ⟨all, outcomes⟩ := accounted.complete complete
    refine ⟨?_, fun task member => Phase.counted_once (Reached.finished complete task member),
      accounted.skipped, accounted.cached, outcomes, ?_⟩
    · rw [accounted.announces, all]
    · obtain reported | failed := engine.conclude_result scene run paths.length
      · exact .inl ⟨_, reported, rfl, countOf_eq _, countOf_eq _⟩
      · exact .inr failed

/-- One slot for four tasks on two files, of which one fails unexpectedly, one cannot read its file
and one finds the same file after the disk has changed; the listener fails each time. -/
theorem run_accounted_through_failures :
    let engine := ({} : Engine).setConcurrency (-3)
    let file := ("a.js", Node.file (Text.encode "x"))
    let scene : Scene := ⟨{ disk := .folder [("p", .folder [file])] }, 5⟩
    let changed : FileSystem := { disk := .folder [("p", .folder [file, ("b.js", file.2)])] }
    let paths := ["/p/a.js", "/p/a.js", "/p/b.js", "/p/b.js"]
    let listener : Engine.Listener := some fun _ => some "display closed"
    let plan := engine.planOf scene 4 listener
    let started := (Run.start paths none).follow plan [1, 0]
    let run := ((started.fail plan 1 "/p/a.js" "no memory").follow plan
      [2, 2, 0, 0, 0, 0]).follow { plan with fs := changed } [3, 3, 3, 3]
    Steps plan (Run.start paths none) run ∧ run.isComplete = true ∧
      run.progress = [⟨1, 4⟩, ⟨2, 4⟩, ⟨3, 4⟩, ⟨4, 4⟩] ∧
      ∃ report, (engine.conclude scene run 4).result = .ok report ∧ report.scannedFiles = 4 ∧
        report.skippedFiles = some 2 ∧ report.cachedFiles = none := by
  intro engine file scene changed paths listener plan started run
  have begun : Steps plan (Run.start paths none) started := Steps.refl.follow _
  have reading : started.tasks[1]? = some ⟨"/p/a.js", .reading⟩ := by rfl
  have failed : Steps plan (Run.start paths none) (started.fail plan 1 "/p/a.js" "no memory") :=
    begun.step (@Step.accident _ _ 1 ⟨"/p/a.js", .reading⟩ started.cache "no memory" reading rfl)
  have steps : Steps plan (Run.start paths none) run := (failed.follow _).follow _
  have complete : run.isComplete = true := by decide +kernel
  obtain ⟨_, accounted⟩ := run_accounted {} (-3) scene paths listener
  obtain ⟨_, _, _, _, _, _, ended⟩ := accounted run steps
  obtain ⟨progress, _, _, _, _, reported | ⟨_, store, isCache, _⟩⟩ := ended complete
  · obtain ⟨report, isReport, scanned, skipped, cached⟩ := reported
    have twoSkipped : run.skipped = 2 := by decide +kernel
    have noneCached : run.cached = 0 := by decide +kernel
    rw [twoSkipped] at skipped
    rw [noneCached] at cached
    exact ⟨steps, complete, progress.trans (by rfl), report, isReport, scanned, skipped, cached⟩
  · have noCache : run.cache.isNone = true := by decide +kernel
    rw [isCache] at noCache
    cases noCache

end MobileAudit.Scan
