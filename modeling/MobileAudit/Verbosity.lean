import MobileAudit.Text.Case

namespace MobileAudit.Verbosity

/-! The least weight an event must have to be shown. -/

def weights : List (String × Nat) :=
  [("CRITICAL", 50), ("FATAL", 50), ("ERROR", 40), ("WARN", 30), ("WARNING", 30), ("INFO", 20),
    ("DEBUG", 10), ("NOTSET", 0)]

/-- A verbose run shows everything from debug events on; otherwise the named level counts, and
warnings if none is named.  An unknown name is given back. -/
def threshold (verbose : Bool) (level : Option String) : Except String Nat :=
  if verbose then .ok 10
  else match level with
    | none => .ok 30
    | some name =>
        if name.isEmpty then .ok 30
        else
          let name := Text.upper name
          match weights.lookup name with
          | some weight => .ok weight
          | none => .error ("Level " ++ name)

end MobileAudit.Verbosity
