import MobileAudit.Json.Read
import MobileAudit.Toml.Read
import MobileAudit.Yaml.Read

namespace MobileAudit.Settings

/-! The formats of settings files. -/

inductive Format where
  | yaml
  | toml
  | json
deriving DecidableEq

namespace Format

def name : Format → String
  | yaml => "YAML"
  | toml => "TOML"
  | json => "JSON"

/-- The format that a suffix in lower case announces. -/
def ofSuffix? (suffix : String) : Option Format :=
  [(".yml", yaml), (".yaml", yaml), (".toml", toml), (".json", json)].lookup suffix

/-- Why a text has no value in a format.  Only JSON says more; a tagged scalar of a YAML text may
end the reading in its own way. -/
inductive Refusal where
  | malformed (reason : Option String)
  | yaml (failure : Yaml.Failure)
deriving DecidableEq

def read (format : Format) (text : String) : Except Refusal Value :=
  match format with
  | yaml =>
      match Yaml.read text with
      | .ok v => .ok v
      | .error .malformed => .error (.malformed none)
      | .error failure => .error (.yaml failure)
  | toml =>
      match Toml.read? text with
      | some v => .ok v
      | none => .error (.malformed none)
  | json =>
      match Json.read text with
      | .ok v => .ok v
      | .error failure => .error (.malformed (some (failure.message text.toList)))

end Format

end MobileAudit.Settings
