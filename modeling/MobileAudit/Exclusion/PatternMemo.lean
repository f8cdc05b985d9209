import MobileAudit.Exclusion.PathFilter

namespace MobileAudit.Exclusion

/-! Filters that share the rules compiled so far.  A valid pattern is compiled once for each way of
comparing case; patterns that give no rule are not remembered. -/

/-- Compiled rules under the pattern text and the way of comparing case. -/
structure PatternMemo where
  entries : List (String × PathRule)

namespace PatternMemo

def empty : PatternMemo := ⟨[]⟩

def key (caseSensitive : Bool) (pattern : String) : String :=
  Text.trimText pattern ++ ":" ++ (if caseSensitive then "True" else "False")

def find? (memo : PatternMemo) (key : String) : Option PathRule :=
  memo.entries.lookup key

/-- Looks a pattern up, or compiles and remembers it. -/
def compile (memo : PatternMemo) (caseSensitive : Bool) (pattern : String) :
    PatternMemo × Compiled :=
  let trimmed := Text.trim pattern.toList
  if trimmed.isEmpty || trimmed.head? == some '#' then (memo, .ignored)
  else
    match memo.find? (key caseSensitive pattern) with
    | some rule => (memo, .rule rule)
    | none =>
        match Exclusion.compile caseSensitive pattern with
        | .rule r => (⟨(key caseSensitive pattern, r) :: memo.entries⟩, .rule r)
        | other => (memo, other)

def add (memo : PatternMemo) (filter : PathFilter) (pattern : String) :
    PatternMemo × Logged (Except Pattern.Breakdown PathFilter) :=
  let (memo, compiled) := memo.compile filter.caseSensitive pattern
  (memo, filter.accept pattern compiled)

def addAll (memo : PatternMemo) (filter : PathFilter) :
    List String → PatternMemo × Logged (Except Pattern.Breakdown PathFilter)
  | [] => (memo, ⟨.ok filter, []⟩)
  | pattern :: rest =>
      let (memo, added) := memo.add filter pattern
      match added.value with
      | .error cause => (memo, ⟨.error cause, added.logs⟩)
      | .ok filter =>
          let (memo, more) := memo.addAll filter rest
          (memo, ⟨more.value, added.logs ++ more.logs⟩)

end PatternMemo

end MobileAudit.Exclusion
