import MobileAudit.Cache.Store
import MobileAudit.Discovery.FileKind
import MobileAudit.Fingerprint
import MobileAudit.Progress
import MobileAudit.Scan.Parser
import MobileAudit.Surroundings.Debug

namespace MobileAudit.Scan

/-! The work on the files of a scan.  Every file is a task that waits for a slot, reads its file,
parses it and applies the rules one by one; tasks take turns between these steps in any order. -/

open Disk Cache

/-- What all tasks of a scan share and none changes.  A listener is told of progress and may answer
with a reason why it failed. -/
structure Plan where
  fs : FileSystem
  now : Int
  rules : List Rule
  parser : SourceParser
  slots : Nat
  total : Nat
  listener : Option (Progress → Option String)

inductive Outcome where
  | skipped
  | served (findings : List Finding)
  | analysed (context : FileContext) (findings : List Finding)

namespace Outcome

def findings : Outcome → List Finding
  | skipped => []
  | served findings => findings
  | analysed _ findings => findings

end Outcome

inductive Phase where
  | waiting
  | reading
  | parsing (content : String) (hash : Option String)
  | applying (context : FileContext) (hash : Option String) (pending : List Rule)
      (found : List Finding)
  | finished (outcome : Outcome)

namespace Phase

/-- Between taking a slot and giving it back. -/
def isRunning : Phase → Bool
  | reading => true
  | parsing .. => true
  | applying .. => true
  | _ => false

def isFinished : Phase → Bool
  | finished _ => true
  | _ => false

def findings : Phase → List Finding
  | finished outcome => outcome.findings
  | _ => []

end Phase

structure Task where
  path : String
  phase : Phase := .waiting

structure Run where
  tasks : List Task
  cache : Option Store
  completed : Nat := 0
  skipped : Nat := 0
  cached : Nat := 0
  progress : List Progress := []
  logs : List Diagnostic := []

namespace Run

def start (paths : List String) (cache : Option Store) : Run where
  tasks := paths.map fun path => { path }
  cache

def running (run : Run) : Nat := run.tasks.countP (·.phase.isRunning)

/-- The cache, if there is one and it is not disabled. -/
def activeCache? (run : Run) : Option Store := run.cache.filter (·.enabled)

def log (run : Run) (d : Diagnostic) : Run := { run with logs := run.logs ++ [d] }

def setPhase (run : Run) (i : Nat) (path : String) (phase : Phase) : Run :=
  { run with tasks := run.tasks.set i ⟨path, phase⟩ }

def report (run : Run) (plan : Plan) : Run :=
  match plan.listener with
  | none => run
  | some listen =>
      let event : Progress := ⟨run.completed, plan.total⟩
      let told := { run with progress := run.progress ++ [event] }
      match listen event with
      | none => told
      | some reason => told.log (.progressFailed reason)

def finish (run : Run) (plan : Plan) (i : Nat) (path : String) (outcome : Outcome) : Run :=
  let run := run.setPhase i path (.finished outcome)
  { run with completed := run.completed + 1 }.report plan

def skip (run : Run) (plan : Plan) (i : Nat) (path : String) (why : Diagnostic) : Run :=
  { run with skipped := run.skipped + 1 }.log why |>.finish plan i path .skipped

def served? (run : Run) (path : String) (hash : String) : Option (List Finding) :=
  run.activeCache?.bind fun store =>
    if store.isValid path hash then store.findings? path else none

/-- The file has been read, or cannot be. -/
def afterRead (run : Run) (plan : Plan) (i : Nat) (path : String) : Run :=
  match plan.fs.read (.ofText path) with
  | .error (.refused refusal text) =>
      run.skip plan i path (.fileUnreadable path (DiskError.refused refusal text).message)
  | .error .nullByte =>
      run.skip plan i path
        (.fileFailed (Fault.of (.scan (some path)) DiskError.nullByte.message).text)
  | .ok bytes =>
      let hash := run.activeCache?.map fun _ => Fingerprint.ofBytes bytes
      match hash.bind (run.served? path) with
      | some findings =>
          { run with cached := run.cached + 1 }.finish plan i path (.served findings)
      | none => run.setPhase i path (.parsing (Text.decodeLossy bytes) hash)

end Run

def treeOf (parser : SourceParser) (path content : String) : Logged (Option String) :=
  match parser path content with
  | .tree description => ⟨some description, []⟩
  | .rejected _ => ⟨none, []⟩
  | .failure crash =>
      ⟨none, [.parserFailed (Fault.of (.parse (some path)) crash.reason).text]⟩

/-- What rules see of a file, by its kind. -/
def contextOf (parser : SourceParser) (path content : String) : Logged FileContext :=
  match FileKind.ofPath? path with
  | some .source =>
      let tree := treeOf parser path content
      ⟨{ path, content, tree := tree.value }, tree.logs⟩
  | some .config => ⟨{ path, content, config := (Json.read? content).getD .null }, []⟩
  | some .manifest => ⟨{ path, content, manifest := some content }, []⟩
  | some .propertyList => ⟨{ path, content, propertyList := some content }, []⟩
  | none => ⟨{ path, content }, []⟩

/-- The findings of one rule; a rule that fails has none. -/
def findingsOf (rule : Rule) (context : FileContext) : Logged (List Finding) :=
  match (rule.apply context).findings with
  | .ok findings => ⟨findings, []⟩
  | .error reason =>
      ⟨[], [.ruleFailed (Fault.of (.rule (some rule.id) (some context.path)) reason).text]⟩

def isReported (content : List Char) (f : Finding) : Bool :=
  !Surroundings.isDebug content (f.snippet.getD "").toList f.path.toList

namespace Run

/-- The rules have been applied: what they found is filtered and remembered. -/
def afterRules (run : Run) (plan : Plan) (i : Nat) (context : FileContext) (hash : Option String)
    (found : List Finding) : Run :=
  let findings := found.filter (isReported context.content.toList)
  let cache := match hash with
    | some hash => run.cache.map fun store => store.set plan.now context.path hash findings
    | none => run.cache
  { run with cache }.finish plan i context.path (.analysed context findings)

/-- Takes the next step of a task; nothing if there is no such task, if it is finished or if it
waits and every slot is taken. -/
def step? (run : Run) (plan : Plan) (i : Nat) : Option Run :=
  match run.tasks[i]? with
  | none => none
  | some task =>
      match task.phase with
      | .waiting =>
          if run.running < plan.slots then some (run.setPhase i task.path .reading) else none
      | .reading => some (run.afterRead plan i task.path)
      | .parsing content hash =>
          let context := contextOf plan.parser task.path content
          let rules := plan.rules.filter (·.appliesTo task.path)
          some ({ run with logs := run.logs ++ context.logs }.setPhase i task.path
            (.applying context.value hash rules []))
      | .applying context hash (rule :: rest) found =>
          let findings := findingsOf rule context
          some ({ run with logs := run.logs ++ findings.logs }.setPhase i task.path
            (.applying context hash rest (found ++ findings.value)))
      | .applying context hash [] found => some (run.afterRules plan i context hash found)
      | .finished _ => none

/-- Takes steps of the tasks in the given order; steps that cannot be taken are left out. -/
def follow (run : Run) (plan : Plan) (schedule : List Nat) : Run :=
  schedule.foldl (fun run i => (run.step? plan i).getD run) run

/-- One task after the other, each with as many turns as it can need. -/
def inOrder (plan : Plan) : List Nat :=
  (List.range plan.total).flatMap fun i => List.replicate (plan.rules.length + 4) i

/-- Turns that end a scan from wherever it has come: a round for the tasks that hold slots, and one
for those that wait for them. -/
def drain (plan : Plan) : List Nat := inOrder plan ++ inOrder plan

def findings (run : Run) : List Finding := run.tasks.flatMap (·.phase.findings)

def isComplete (run : Run) : Bool := run.tasks.all (·.phase.isFinished)

end Run

end MobileAudit.Scan
