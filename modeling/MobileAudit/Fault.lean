import MobileAudit.Document.Show

namespace MobileAudit

/-! Failures with a message and named details. -/

inductive FaultKind where
  | general
  | scan (path : Option String)
  | rule (ruleId path : Option String)
  | cache (file : Option String)
  | parse (file : Option String)
  | config (key : Option String)
deriving DecidableEq

namespace FaultKind

/-- What a failure is about, in the order of its kind. -/
def attributes : FaultKind → List (Option String)
  | general => []
  | scan path => [path]
  | rule ruleId path => [ruleId, path]
  | cache file => [file]
  | parse file => [file]
  | config key => [key]

def detailNames : FaultKind → List String
  | general => []
  | scan _ => ["path"]
  | rule .. => ["rule", "path"]
  | cache _ => ["cache_file"]
  | parse _ => ["file"]
  | config _ => ["config_key"]

def details (kind : FaultKind) : List (String × String) :=
  (kind.detailNames.zip kind.attributes).filterMap fun (name, subject) =>
    match subject with
    | some text => if text.isEmpty then none else some (name, text)
    | none => none

end FaultKind

structure Fault where
  kind : FaultKind
  message : String
  context : Value.Entries

namespace Fault

/-- A failure within a context; what the failure is about is set on top of it. -/
def within (context : Value.Entries) (kind : FaultKind) (message : String) : Fault :=
  ⟨kind, message, kind.details.foldl
    (fun entries detail => entries.put (.text detail.1) (.text detail.2)) context⟩

def of (kind : FaultKind) (message : String) : Fault := within [] kind message

def text (fault : Fault) : String :=
  if fault.context.isEmpty then fault.message
  else
    fault.message ++ " (" ++
      Text.joinTexts ", " (fault.context.map fun (k, v) => k.plain ++ "=" ++ v.quoted) ++ ")"

/-- The context of the caller after the failure was made: an empty one is left alone, another one
is the failure's own. -/
def callerContext (given : Value.Entries) (fault : Fault) : Value.Entries :=
  if given.isEmpty then [] else fault.context

end Fault

end MobileAudit
