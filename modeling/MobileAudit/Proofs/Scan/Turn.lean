import MobileAudit.Scan.Task

namespace MobileAudit.Scan

open Disk Cache

/-! What one turn of a task does, and what turns in any order lead to. -/

/-- The store that takes part in a scan, if there is one and it is not disabled. -/
def activeStore? (cache : Option Store) : Option Store := cache.filter (·.enabled)

/-- The fingerprint under which the findings of a content will be remembered. -/
def hashFor (cache : Option Store) (bytes : ByteArray) : Option String :=
  (activeStore? cache).map fun _ => Fingerprint.ofBytes bytes

def servedBy (cache : Option Store) (path : String) (bytes : ByteArray) : Option (List Finding) :=
  (activeStore? cache).bind fun store =>
    if store.isValid path (Fingerprint.ofBytes bytes) then store.findings? path else none

def remember (plan : Plan) (cache : Option Store) (path : String) (hash : Option String)
    (findings : List Finding) : Option Store :=
  match hash with
  | some hash => cache.map fun store => store.set plan.now path hash findings
  | none => cache

namespace Phase

def isSkipped : Phase → Bool
  | finished .skipped => true
  | _ => false

def isServed : Phase → Bool
  | finished (.served _) => true
  | _ => false

def isAnalysed : Phase → Bool
  | finished (.analysed _ _) => true
  | _ => false

end Phase

/-- One turn of a task, with the cache before and after it. -/
inductive Turn (plan : Plan) (cache : Option Store) : Task → Task → Option Store → Prop
  | start {path : String} : Turn plan cache ⟨path, .waiting⟩ ⟨path, .reading⟩ cache
  | unreadable {path : String} {error : DiskError}
      (failed : plan.fs.read (.ofText path) = .error error) :
      Turn plan cache ⟨path, .reading⟩ ⟨path, .finished .skipped⟩ cache
  | hit {path : String} {bytes : ByteArray} {findings : List Finding}
      (read : plan.fs.read (.ofText path) = .ok bytes)
      (served : servedBy cache path bytes = some findings) :
      Turn plan cache ⟨path, .reading⟩ ⟨path, .finished (.served findings)⟩ cache
  | miss {path : String} {bytes : ByteArray} (read : plan.fs.read (.ofText path) = .ok bytes)
      (unserved : servedBy cache path bytes = none) :
      Turn plan cache ⟨path, .reading⟩
        ⟨path, .parsing (Text.decodeLossy bytes) (hashFor cache bytes)⟩ cache
  | parse {path content : String} {hash : Option String} :
      Turn plan cache ⟨path, .parsing content hash⟩
        ⟨path, .applying (contextOf plan.parser path content).value hash
          (plan.rules.filter (·.appliesTo path)) []⟩ cache
  | apply {path : String} {context : FileContext} {hash : Option String} {rule : Rule}
      {pending : List Rule} {found : List Finding} :
      Turn plan cache ⟨path, .applying context hash (rule :: pending) found⟩
        ⟨path, .applying context hash pending (found ++ (findingsOf rule context).value)⟩ cache
  | conclude {path : String} {context : FileContext} {hash : Option String}
      {found : List Finding} :
      Turn plan cache ⟨path, .applying context hash [] found⟩
        ⟨context.path,
          .finished (.analysed context (found.filter (isReported context.content.toList)))⟩
        (remember plan cache context.path hash
          (found.filter (isReported context.content.toList)))

namespace Run

/-- A run after one task has taken a turn, as far as later turns depend on it. -/
structure Moved (plan : Plan) (run next : Run) (i : Nat) (task moved : Task) : Prop where
  here : run.tasks[i]? = some task
  tasks : next.tasks = run.tasks.set i moved
  turn : Turn plan run.cache task moved next.cache
  slot : task.phase = .waiting → run.running < plan.slots
  completed : next.completed = run.completed + if moved.phase.isFinished then 1 else 0
  skipped : next.skipped = run.skipped + if moved.phase.isSkipped then 1 else 0
  cached : next.cached = run.cached + if moved.phase.isServed then 1 else 0

theorem report_eq (run : Run) (plan : Plan) :
    (run.report plan).tasks = run.tasks ∧ (run.report plan).cache = run.cache ∧
      (run.report plan).completed = run.completed ∧ (run.report plan).skipped = run.skipped ∧
      (run.report plan).cached = run.cached := by
  unfold report
  split
  · simp
  · simp only []
    split <;> simp [log]

theorem served?_eq (run : Run) (path : String) (bytes : ByteArray) :
    (run.activeCache?.map fun _ => Fingerprint.ofBytes bytes).bind (run.served? path) =
      servedBy run.cache path bytes := by
  unfold served? servedBy activeCache? activeStore?
  cases run.cache.filter (·.enabled) <;> rfl

theorem finish_eq (run : Run) (plan : Plan) (i : Nat) (path : String) (outcome : Outcome) :
    (run.finish plan i path outcome).tasks = run.tasks.set i ⟨path, .finished outcome⟩ ∧
      (run.finish plan i path outcome).cache = run.cache ∧
      (run.finish plan i path outcome).completed = run.completed + 1 ∧
      (run.finish plan i path outcome).skipped = run.skipped ∧
      (run.finish plan i path outcome).cached = run.cached :=
  report_eq _ plan

theorem moved_finish (run changed : Run) (plan : Plan) (i : Nat) (path path' : String)
    (phase : Phase) (outcome : Outcome) (here : run.tasks[i]? = some ⟨path, phase⟩)
    (busy : phase ≠ .waiting) (tasks : changed.tasks = run.tasks)
    (turn : Turn plan run.cache ⟨path, phase⟩ ⟨path', .finished outcome⟩ changed.cache)
    (completed : changed.completed = run.completed)
    (skipped : changed.skipped =
      run.skipped + if (Phase.finished outcome).isSkipped then 1 else 0)
    (cached : changed.cached =
      run.cached + if (Phase.finished outcome).isServed then 1 else 0) :
    Moved plan run (changed.finish plan i path' outcome) i ⟨path, phase⟩
      ⟨path', .finished outcome⟩ := by
  obtain ⟨tasks', cache', completed', skipped', cached'⟩ :=
    finish_eq changed plan i path' outcome
  refine ⟨here, ?_, ?_, ?_, ?_, ?_, ?_⟩
  · rw [tasks', tasks]
  · rw [cache']
    exact turn
  · intro waiting
    exact absurd waiting busy
  · rw [completed', completed]
    rfl
  · rw [skipped', skipped]
  · rw [cached', cached]

private theorem afterRead_moved (run : Run) (plan : Plan) (i : Nat) (path : String)
    (here : run.tasks[i]? = some ⟨path, .reading⟩) :
    ∃ moved, Moved plan run (run.afterRead plan i path) i ⟨path, .reading⟩ moved := by
  unfold afterRead
  split
  · rename_i refusal text failed
    exact ⟨_, moved_finish run _ plan i path path _ .skipped here (by simp) rfl
      (.unreadable failed) rfl rfl rfl⟩
  · rename_i failed
    exact ⟨_, moved_finish run _ plan i path path _ .skipped here (by simp) rfl
      (.unreadable failed) rfl rfl rfl⟩
  · rename_i bytes read
    simp only [served?_eq]
    split
    · rename_i findings served
      exact ⟨_, moved_finish run _ plan i path path _ (.served findings) here (by simp) rfl
        (.hit read served) rfl rfl rfl⟩
    · rename_i unserved
      exact ⟨_, here, rfl, .miss read unserved, by simp, rfl, rfl, rfl⟩

private theorem afterRules_moved (run : Run) (plan : Plan) (i : Nat) (path : String)
    (context : FileContext) (hash : Option String) (found : List Finding)
    (here : run.tasks[i]? = some ⟨path, .applying context hash [] found⟩) :
    ∃ moved, Moved plan run (run.afterRules plan i context hash found) i
      ⟨path, .applying context hash [] found⟩ moved :=
  ⟨_, moved_finish run _ plan i path context.path _ _ here (by simp) rfl .conclude rfl rfl rfl⟩

theorem step?_moved {run next : Run} {plan : Plan} {i : Nat}
    (step : run.step? plan i = some next) : ∃ task moved, Moved plan run next i task moved := by
  unfold step? at step
  cases here : run.tasks[i]? with
  | none =>
      rw [here] at step
      cases step
  | some task =>
      obtain ⟨path, phase⟩ := task
      simp only [here] at step
      cases phase with
      | waiting =>
          simp only at step
          split at step
          · rename_i slot
            cases step
            exact ⟨_, _, here, rfl, .start, fun _ => slot, rfl, rfl, rfl⟩
          · cases step
      | reading =>
          cases step
          exact ⟨_, afterRead_moved run plan i path here⟩
      | parsing content hash =>
          cases step
          exact ⟨_, _, here, rfl, .parse, by simp, rfl, rfl, rfl⟩
      | applying context hash pending found =>
          cases pending with
          | nil =>
              cases step
              exact ⟨_, afterRules_moved run plan i path context hash found here⟩
          | cons rule pending =>
              cases step
              exact ⟨_, _, here, rfl, .apply, by simp, rfl, rfl, rfl⟩
      | finished outcome => cases step

/-- A task can take a turn unless it is finished or waits for a slot. -/
theorem step?_isSome (run : Run) (plan : Plan) (i : Nat) (task : Task)
    (here : run.tasks[i]? = some task) (unfinished : task.phase.isFinished = false)
    (slot : task.phase = .waiting → run.running < plan.slots) :
    ∃ next, run.step? plan i = some next := by
  obtain ⟨path, phase⟩ := task
  unfold step?
  simp only [here]
  cases phase with
  | waiting => exact ⟨_, if_pos (slot rfl)⟩
  | reading => exact ⟨_, rfl⟩
  | parsing content hash => exact ⟨_, rfl⟩
  | applying context hash pending found =>
      cases pending with
      | nil => exact ⟨_, rfl⟩
      | cons rule pending => exact ⟨_, rfl⟩
  | finished outcome => cases unfinished

private theorem step?_finished (run : Run) (plan : Plan) (i : Nat) (task : Task)
    (here : run.tasks[i]? = some task) (finished : task.phase.isFinished = true) :
    run.step? plan i = none := by
  obtain ⟨path, phase⟩ := task
  unfold step?
  simp only [here]
  cases phase with
  | finished outcome => rfl
  | _ => cases finished

private theorem step?_noSlot (run : Run) (plan : Plan) (i : Nat) (task : Task)
    (here : run.tasks[i]? = some task) (waiting : task.phase = .waiting)
    (full : ¬ run.running < plan.slots) : run.step? plan i = none := by
  unfold step?
  simp only [here, waiting]
  exact if_neg full

/-! Turns in any order. -/

theorem follow_cons (run : Run) (plan : Plan) (i : Nat) (schedule : List Nat) :
    run.follow plan (i :: schedule) =
      ((run.step? plan i).getD run).follow plan schedule := rfl

theorem follow_append (run : Run) (plan : Plan) (first second : List Nat) :
    run.follow plan (first ++ second) = (run.follow plan first).follow plan second :=
  List.foldl_append

theorem follow_induct {plan : Plan} {holds : Run → Prop}
    (step : ∀ run next i task moved, Moved plan run next i task moved → holds run → holds next)
    (schedule : List Nat) : ∀ run : Run, holds run → holds (run.follow plan schedule) := by
  induction schedule with
  | nil =>
      intro run start
      exact start
  | cons i schedule ih =>
      intro run start
      rw [follow_cons]
      apply ih
      cases taken : run.step? plan i with
      | none => exact start
      | some next =>
          obtain ⟨task, moved, turn⟩ := step?_moved taken
          exact step run next i task moved turn start

end Run

/-! Every scan comes to its end: a task that holds a slot needs a bounded number of turns. -/

/-- A bound for the turns that a task still needs, given the number of rules. -/
def Phase.remaining (rules : Nat) : Phase → Nat
  | waiting => rules + 4
  | reading => rules + 3
  | parsing .. => rules + 2
  | applying _ _ pending _ => pending.length + 1
  | finished _ => 0

theorem Phase.not_running_of_finished {phase : Phase} (finished : phase.isFinished = true) :
    phase.isRunning = false := by
  cases phase with
  | finished outcome => rfl
  | _ => cases finished

theorem Turn.remaining_lt {plan : Plan} {cache cache' : Option Store} {task moved : Task}
    (turn : Turn plan cache task moved cache') :
    moved.phase.remaining plan.rules.length < task.phase.remaining plan.rules.length := by
  cases turn with
  | @parse path =>
      have fewer := List.length_filter_le (·.appliesTo path) plan.rules
      simp only [Phase.remaining]
      omega
  | _ => simp [Phase.remaining]

theorem Turn.not_waiting {plan : Plan} {cache cache' : Option Store} {task moved : Task}
    (turn : Turn plan cache task moved cache') : moved.phase ≠ .waiting := by
  cases turn <;> simp

theorem Turn.unfinished {plan : Plan} {cache cache' : Option Store} {task moved : Task}
    (turn : Turn plan cache task moved cache') : task.phase.isFinished = false := by
  cases turn <;> rfl

namespace Run

theorem set_here {run : Run} {i : Nat} {task : Task} (here : run.tasks[i]? = some task) :
    run.tasks.set i task = run.tasks := by
  obtain ⟨inside, same⟩ := List.getElem?_eq_some_iff.mp here
  rw [← same, List.set_getElem_self]

/-- Turns of one task only change that task, and enough of them finish it. -/
theorem follow_busy (plan : Plan) (i turns : Nat) :
    ∀ (run : Run) (task : Task), run.tasks[i]? = some task → task.phase ≠ .waiting →
      task.phase.remaining plan.rules.length ≤ turns →
      ∃ done, (run.follow plan (List.replicate turns i)).tasks = run.tasks.set i done ∧
        done.phase.isFinished = true := by
  induction turns with
  | zero =>
      intro run task here busy enough
      refine ⟨task, by rw [set_here here]; rfl, ?_⟩
      cases phase : task.phase with
      | finished outcome => rfl
      | _ => simp [phase, Phase.remaining] at enough
  | succ turns ih =>
      intro run task here busy enough
      rw [List.replicate_succ, follow_cons]
      cases finished : task.phase.isFinished with
      | true =>
          rw [step?_finished run plan i task here finished]
          have none : task.phase.remaining plan.rules.length ≤ turns := by
            cases phase : task.phase with
            | finished outcome => simp [Phase.remaining]
            | _ => simp [phase, Phase.isFinished] at finished
          exact ih run task here busy none
      | false =>
          obtain ⟨next, step⟩ := step?_isSome run plan i task here finished
            fun waiting => absurd waiting busy
          obtain ⟨task', moved, turn⟩ := step?_moved step
          obtain rfl : task = task' := Option.some.inj (here.symm.trans turn.here)
          have fewer := turn.turn.remaining_lt
          have inside : i < run.tasks.length := List.getElem?_eq_some_iff.mp here |>.1
          obtain ⟨done, tasks, isDone⟩ := ih next moved
            (by rw [turn.tasks, List.getElem?_set_self inside]) turn.turn.not_waiting (by omega)
          refine ⟨done, ?_, isDone⟩
          rw [step, Option.getD_some, tasks, turn.tasks, List.set_set]

private theorem follow_blocked (plan : Plan) (i turns : Nat) (run : Run)
    (blocked : run.step? plan i = none) : run.follow plan (List.replicate turns i) = run := by
  induction turns with
  | zero => rfl
  | succ turns ih => rw [List.replicate_succ, follow_cons, blocked, Option.getD_none, ih]

private theorem follow_block (plan : Plan) (i : Nat) (run : Run) (task : Task)
    (here : run.tasks[i]? = some task)
    (bound : task.phase.remaining plan.rules.length ≤ plan.rules.length + 4) :
    ∃ done,
      (run.follow plan (List.replicate (plan.rules.length + 4) i)).tasks = run.tasks.set i done ∧
      (done.phase.isFinished = true ∨ done.phase = .waiting) ∧
      (run.running < plan.slots → done.phase.isFinished = true) := by
  have inside : i < run.tasks.length := List.getElem?_eq_some_iff.mp here |>.1
  by_cases waiting : task.phase = .waiting
  · by_cases slot : run.running < plan.slots
    · obtain ⟨next, step⟩ := step?_isSome run plan i task here (by rw [waiting]; rfl)
        fun _ => slot
      obtain ⟨task', moved, turn⟩ := step?_moved step
      obtain rfl : task = task' := Option.some.inj (here.symm.trans turn.here)
      have fewer := turn.turn.remaining_lt
      rw [waiting, Phase.remaining] at fewer
      obtain ⟨done, tasks, isDone⟩ := follow_busy plan i (plan.rules.length + 3) next moved
        (by rw [turn.tasks, List.getElem?_set_self inside]) turn.turn.not_waiting (by omega)
      refine ⟨done, ?_, .inl isDone, fun _ => isDone⟩
      rw [List.replicate_succ, follow_cons, step, Option.getD_some, tasks, turn.tasks,
        List.set_set]
    · refine ⟨task, ?_, .inr waiting, fun slot' => absurd slot' slot⟩
      rw [follow_blocked plan i _ run (step?_noSlot run plan i task here waiting slot),
        set_here here]
  · obtain ⟨done, tasks, isDone⟩ := follow_busy plan i _ run task here waiting bound
    exact ⟨done, tasks, .inl isDone, fun _ => isDone⟩

theorem running_eq_zero {run : Run} :
    run.running = 0 ↔ ∀ (i : Nat) (task : Task), run.tasks[i]? = some task →
      task.phase.isRunning = false := by
  rw [running, List.countP_eq_zero]
  constructor
  · intro none i task here
    simpa using none task (List.mem_of_getElem? here)
  · intro none task member
    obtain ⟨i, here⟩ := List.getElem?_of_mem member
    simp [none i task here]

def Bounded (plan : Plan) (run : Run) : Prop :=
  ∀ task ∈ run.tasks, task.phase.remaining plan.rules.length ≤ plan.rules.length + 4

theorem bounded_start (plan : Plan) (paths : List String) (cache : Option Store) :
    Bounded plan (start paths cache) := by
  intro task member
  obtain ⟨path, _, rfl⟩ := List.mem_map.mp member
  exact Nat.le_refl _

private theorem Moved.bounded {plan : Plan} {run next : Run} {i : Nat} {task moved : Task}
    (turn : Moved plan run next i task moved) (bounded : Bounded plan run) :
    Bounded plan next := by
  intro other member
  rw [turn.tasks] at member
  obtain inRun | rfl := List.mem_or_eq_of_mem_set member
  · exact bounded other inRun
  · have fewer := turn.turn.remaining_lt
    have before := bounded task (List.mem_of_getElem? turn.here)
    omega

theorem follow_bounded {plan : Plan} {run : Run} (schedule : List Nat)
    (bounded : Bounded plan run) : Bounded plan (run.follow plan schedule) :=
  follow_induct (fun _ _ _ _ _ turn => turn.bounded) schedule run bounded

@[simp] theorem follow_length (plan : Plan) (run : Run) (schedule : List Nat) :
    (run.follow plan schedule).tasks.length = run.tasks.length := by
  have kept : ∀ other next i task moved, Moved plan other next i task moved →
      other.tasks.length = run.tasks.length → next.tasks.length = run.tasks.length := by
    intro other next i task moved turn same
    rw [turn.tasks, List.length_set, same]
  exact follow_induct kept schedule run rfl

def roundUpTo (plan : Plan) (count : Nat) : List Nat :=
  (List.range count).flatMap fun i => List.replicate (plan.rules.length + 4) i

theorem roundUpTo_succ (plan : Plan) (count : Nat) :
    roundUpTo plan (count + 1) =
      roundUpTo plan count ++ List.replicate (plan.rules.length + 4) count := by
  simp [roundUpTo, List.range_succ]

/-- After a round no task holds a slot, and if none did before, all are finished. -/
theorem follow_roundUpTo (plan : Plan) (run : Run) (bounded : Bounded plan run) (count : Nat)
    (inside : count ≤ run.tasks.length) :
    ∀ i task, (run.follow plan (roundUpTo plan count)).tasks[i]? = some task →
      (i < count → task.phase.isFinished = true ∨ task.phase = .waiting) ∧
      (i < count → 0 < plan.slots → run.running = 0 → task.phase.isFinished = true) ∧
      (count ≤ i → run.tasks[i]? = some task) := by
  induction count with
  | zero =>
      intro i task here
      exact ⟨by omega, by omega, fun _ => here⟩
  | succ count ih =>
      intro i task here
      have previous := ih (by omega)
      generalize reached : run.follow plan (roundUpTo plan count) = middle at previous
      have length : middle.tasks.length = run.tasks.length := by
        rw [← reached, follow_length]
      have bounded' : Bounded plan middle := by
        rw [← reached]
        exact follow_bounded _ bounded
      obtain ⟨first, atCount⟩ : ∃ first, middle.tasks[count]? = some first :=
        ⟨_, List.getElem?_eq_getElem (by omega)⟩
      obtain ⟨done, tasks, settled, ended⟩ := follow_block plan count middle first atCount
        (bounded' first (List.mem_of_getElem? atCount))
      rw [roundUpTo_succ, follow_append, reached, tasks] at here
      by_cases last : i = count
      · subst last
        rw [List.getElem?_set_self (by omega)] at here
        cases here
        refine ⟨fun _ => settled, fun _ positive idle => ended ?_, by omega⟩
        have idle' : middle.running = 0 := by
          refine running_eq_zero.mpr fun j other there => ?_
          by_cases before : j < i
          · have finished := (previous j other there).2.1 before positive idle
            exact Phase.not_running_of_finished finished
          · exact running_eq_zero.mp idle j other ((previous j other there).2.2 (by omega))
        omega
      · rw [List.getElem?_set_ne (Ne.symm last)] at here
        obtain ⟨before, before', after⟩ := previous i task here
        exact ⟨fun _ => before (by omega), fun _ => before' (by omega), fun _ => after (by omega)⟩

theorem follow_drain {plan : Plan} {run : Run} (bounded : Bounded plan run)
    (total : plan.total = run.tasks.length) (positive : 0 < plan.slots) :
    (run.follow plan (drain plan)).isComplete = true := by
  have round : inOrder plan = roundUpTo plan plan.total := rfl
  have first := follow_roundUpTo plan run bounded plan.total (by omega)
  have length := follow_length plan run (roundUpTo plan plan.total)
  rw [drain, follow_append, round]
  have bounded' := follow_bounded (roundUpTo plan plan.total) bounded
  generalize run.follow plan (roundUpTo plan plan.total) = middle at first length bounded'
  have idle : middle.running = 0 := by
    refine running_eq_zero.mpr fun i task here => ?_
    have inside : i < middle.tasks.length := (List.getElem?_eq_some_iff.mp here).1
    obtain finished | waiting := (first i task here).1 (by omega)
    · exact Phase.not_running_of_finished finished
    · rw [waiting]
      rfl
  have second := follow_roundUpTo plan middle bounded' plan.total (by omega)
  have length' := follow_length plan middle (roundUpTo plan plan.total)
  rw [isComplete, List.all_eq_true]
  intro task member
  obtain ⟨i, here⟩ := List.getElem?_of_mem member
  have inside := (List.getElem?_eq_some_iff.mp here).1
  exact (second i task here).2.1 (by omega) positive idle

end Run

end MobileAudit.Scan
