import MobileAudit.Check.Problem

namespace MobileAudit.Check

/-! Outcomes of a check.  Problems of independent parts are collected in order; a breakdown ends the
check at once. -/

inductive Checked (α : Type) where
  | valid (a : α)
  | invalid (problems : List Problem)
  | broken (cause : Breakdown)

namespace Checked

variable {α β : Type}

def flawed (flaw : Flaw) : Checked α := invalid [.here flaw]

def map (f : α → β) : Checked α → Checked β
  | valid a => valid (f a)
  | invalid problems => invalid problems
  | broken cause => broken cause

def bind (checked : Checked α) (next : α → Checked β) : Checked β :=
  match checked with
  | valid a => next a
  | invalid problems => invalid problems
  | broken cause => broken cause

def and (first : Checked α) (second : Checked β) : Checked (α × β) :=
  match first, second with
  | broken cause, _ => broken cause
  | _, broken cause => broken cause
  | valid a, valid b => valid (a, b)
  | valid _, invalid ps => invalid ps
  | invalid ps, valid _ => invalid ps
  | invalid ps, invalid qs => invalid (ps ++ qs)

def under (step : String) : Checked α → Checked α
  | valid a => valid a
  | invalid problems => invalid (problems.map (·.under step))
  | broken cause => broken cause

def all : List (Checked α) → Checked (List α)
  | [] => valid []
  | first :: rest => (first.and (all rest)).map fun (a, as) => a :: as

def value? : Checked α → Option α
  | valid a => some a
  | _ => none

@[simp] theorem map_valid (f : α → β) (a : α) : (valid a).map f = valid (f a) := rfl

@[simp] theorem and_valid (a : α) (b : β) : (valid a).and (valid b) = valid (a, b) := rfl

@[simp] theorem under_valid (step : String) (a : α) : (valid a).under step = valid a := rfl

end Checked

end MobileAudit.Check
