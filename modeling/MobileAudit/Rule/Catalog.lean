import MobileAudit.Rule.ConfigSecret
import MobileAudit.Rule.Platform
import MobileAudit.Rule.Storage

namespace MobileAudit.Rule

/-! The built-in rules. -/

def catalog : List RuleGroup :=
  [⟨.secrets, [sourceSecret, configSecret]⟩,
    ⟨.storage, [sensitiveStorage]⟩,
    ⟨.android, [cleartextTraffic, debuggable]⟩,
    ⟨.ios, [arbitraryLoads]⟩]

def builtIn : List Rule := catalog.flatMap (·.rules)

def builtIn? (id : String) : Option Rule := builtIn.find? (·.id == id)

end MobileAudit.Rule
