import MobileAudit.Yaml.Content
import MobileAudit.Yaml.Node

namespace MobileAudit.Yaml

/-! Reading YAML. -/

/-- The value of a text; a text without a document is an empty mapping, and so is `null`. -/
def read (text : String) : Except Failure Value := do
  let some tokens := tokens? text.toList | throw .malformed
  let some document := document? tokens | throw .malformed
  match document with
  | none => return .map []
  | some document =>
      match ← document.graph.value document.root with
      | .null => return .map []
      | v => return v

end MobileAudit.Yaml
