import MobileAudit.Document.Value
import MobileAudit.Finding
import MobileAudit.Location

namespace MobileAudit

/-! Detection rules.  A rule sees one file and answers with findings; rules can be supplied from
outside, so an answer may also be something else or a failure. -/

/-- What a rule may inspect.  A configuration that is absent or not readable is `null`. -/
structure FileContext where
  path : String
  content : String
  tree : Option String := none
  config : Value := .null
  manifest : Option String := none
  propertyList : Option String := none

/-- A failure inside a collaborator: its kind and what it says. -/
structure Crash where
  kind : String
  message : String
deriving DecidableEq

def Crash.reason (crash : Crash) : String :=
  if crash.message.isEmpty then crash.kind else crash.message

inductive RuleItem where
  | finding (f : Finding)
  | other (kind : String)

inductive RuleAnswer where
  | items (all : List RuleItem)
  | value (v : Value)
  | failure (crash : Crash)

/-- What an answer that is no sequence of items is made of. -/
def Value.parts? : Value → Option (List Value)
  | .list items => some items
  | .tuple items => some items
  | .set items => some items
  | .map entries => some (entries.map (·.1))
  | .text s => some (s.toList.map fun c => .text (String.ofList [c]))
  | .bytes data => some (data.map fun b => .int b.toNat)
  | _ => none

namespace RuleItem

/-- The findings among the items; an item of another kind spoils the answer. -/
def findings : List RuleItem → Except String (List Finding)
  | [] => .ok []
  | finding f :: rest => (findings rest).map (f :: ·)
  | other kind :: _ => .error ("rule returned " ++ kind ++ ", not Finding")

end RuleItem

namespace RuleAnswer

def ofFindings (found : List Finding) : RuleAnswer :=
  items (found.map .finding)

def findings : RuleAnswer → Except String (List Finding)
  | items all => RuleItem.findings all
  | value v =>
      if !v.truthy then .ok []
      else match v.parts? with
        | some parts => RuleItem.findings (parts.map fun part => .other part.kindName)
        | none => .error ("'" ++ v.kindName ++ "' object is not iterable")
  | failure crash => .error crash.reason

@[simp] theorem findings_ofFindings (found : List Finding) :
    (ofFindings found).findings = .ok found := by
  induction found with
  | nil => rfl
  | cons f rest ih =>
      simp only [ofFindings, findings, List.map_cons, RuleItem.findings] at ih ⊢
      rw [ih]
      rfl

end RuleAnswer

structure Rule where
  id : String
  description : String
  severity : Severity
  fileTypes : List String
  apply : FileContext → RuleAnswer

namespace Rule

def appliesTo (rule : Rule) (path : String) : Bool :=
  rule.fileTypes.any fun ending => ending.toList.isSuffixOf path.toList

def findingAt (id description : String) (severity : Severity) (path : String)
    (content : List Char) (offset : Int) (suggestion : Option String) : Finding :=
  let line := Location.lineOf content offset
  { ruleId := id
    description
    severity
    path
    line := some line
    snippet := some (String.ofList (Location.snippet content line 2))
    suggestion }

end Rule

structure RuleCard where
  id : String
  description : String
  severity : Severity
  fileTypes : List String

namespace RuleCard

def finding (card : RuleCard) (context : FileContext) (offset : Nat) (suggestion : String) :
    Finding :=
  Rule.findingAt card.id card.description card.severity context.path context.content.toList
    offset (some suggestion)

def toRule (card : RuleCard) (detect : FileContext → List Finding) : Rule where
  id := card.id
  description := card.description
  severity := card.severity
  fileTypes := card.fileTypes
  apply := fun context => .ofFindings (detect context)

end RuleCard

/-- Areas of mobile app security. -/
inductive Category where
  | storage
  | network
  | authentication
  | secrets
  | cryptography
  | logging
  | webview
  | config
  | android
  | ios
deriving DecidableEq

namespace Category

def all : List Category :=
  [storage, network, authentication, secrets, cryptography, logging, webview, config, android, ios]

def name : Category → String
  | storage => "storage"
  | network => "network"
  | authentication => "authentication"
  | secrets => "secrets"
  | cryptography => "cryptography"
  | logging => "logging"
  | webview => "webview"
  | config => "config"
  | android => "android"
  | ios => "ios"

def ofName? (name : String) : Option Category :=
  all.find? (·.name == name)

end Category

structure RuleGroup where
  category : Category
  rules : List Rule

end MobileAudit
