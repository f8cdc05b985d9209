namespace MobileAudit

/-! Reported issues. -/

inductive Severity where
  | critical
  | high
  | medium
  | low
deriving DecidableEq

namespace Severity

def all : List Severity := [critical, high, medium, low]

def name : Severity → String
  | critical => "CRITICAL"
  | high => "HIGH"
  | medium => "MEDIUM"
  | low => "LOW"

def ofName? (name : String) : Option Severity :=
  all.find? (·.name == name)

@[simp] theorem ofName?_name (severity : Severity) : ofName? severity.name = some severity := by
  cases severity <;> rfl

end Severity

structure Finding where
  ruleId : String
  description : String
  severity : Severity
  path : String
  line : Option Int := none
  snippet : Option String := none
  suggestion : Option String := none
deriving DecidableEq

end MobileAudit
