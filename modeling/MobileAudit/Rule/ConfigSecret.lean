import MobileAudit.Document.Show
import MobileAudit.Rule.Basic
import MobileAudit.Secret.Judgement

namespace MobileAudit.Rule

/-! Sensitive keys that hold secrets in configuration files. -/

def configTypes : List String := [".json"]

def configSecretCard : RuleCard where
  id := "CONFIG_HARDCODED_SECRET"
  description := "Hardcoded secret in configuration file"
  severity := .high
  fileTypes := configTypes

/-- An entry of a mapping whose value is a text, with the way that leads to it. -/
structure TextEntry where
  key : String
  path : String
  value : String
deriving DecidableEq

def extendPath (path key : String) : String :=
  if path.isEmpty then key else path ++ "." ++ key

def itemPath (path : String) (index : Nat) : String :=
  path ++ "[" ++ toString index ++ "]"

mutual

/-- All entries with a text as value, depth first in document order. -/
def textEntries (path : String) : Value → List TextEntry
  | .map entries => entriesOfMap path entries
  | .list items => entriesOfList path 0 items
  | _ => []

def entriesOfMap (path : String) : List (Value × Value) → List TextEntry
  | [] => []
  | (key, value) :: rest =>
      let name := key.plain
      (match value with
        | .text s => [⟨name, extendPath path name, s⟩]
        | other => textEntries (extendPath path name) other) ++ entriesOfMap path rest

def entriesOfList (path : String) (index : Nat) : List Value → List TextEntry
  | [] => []
  | item :: rest =>
      textEntries (itemPath path index) item ++ entriesOfList path (index + 1) rest

end

def configSecretAdvice (path : String) : String :=
  "Remove the value of '" ++ path ++ "' from the config file and load it " ++
    "from environment-specific secure storage."

/-- The first place of the key in quotes, or the start of the file. -/
def keyOffset (content : List Char) (key : String) : Nat :=
  (Text.find? ('"' :: key.toList ++ ['"']) content).getD 0

def detectConfigSecrets (context : FileContext) : List Finding :=
  ((textEntries "" context.config).filter fun entry =>
    Secret.isHardcoded entry.key entry.value).map fun entry =>
      configSecretCard.finding context (keyOffset context.content.toList entry.key)
        (configSecretAdvice entry.path)

def configSecret : Rule := configSecretCard.toRule detectConfigSecrets

end MobileAudit.Rule
