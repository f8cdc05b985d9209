/-! Runs of code points that a case mapping moves by the same distance. -/

namespace MobileAudit.Text

structure CaseRun where
  first : Nat
  last : Nat
  step : Nat
  shift : Int

namespace CaseRun

def covers (run : CaseRun) (code : Nat) : Bool :=
  run.first ≤ code && code ≤ run.last && (code - run.first) % run.step == 0

def target (run : CaseRun) (code : Nat) : Nat :=
  (Int.ofNat code + run.shift).toNat

/-- The code point of the run that is moved to the given one, if there is one. -/
def source? (run : CaseRun) (code : Nat) : Option Nat :=
  let candidate := (Int.ofNat code - run.shift).toNat
  if run.covers candidate then some candidate else none

end CaseRun

/-- Moves a code point by the run that covers it. -/
def mapByRuns (runs : Array CaseRun) (code : Nat) : Nat :=
  match runs.find? (·.covers code) with
  | some run => run.target code
  | none => code

end MobileAudit.Text
