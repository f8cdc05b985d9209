import MobileAudit.Text.Quoted

namespace MobileAudit

/-! Events that a scan reports on the side. -/

inductive Level where
  | debug
  | info
  | warning
deriving DecidableEq

def Level.name : Level → String
  | debug => "DEBUG"
  | info => "INFO"
  | warning => "WARNING"

def Level.weight : Level → Nat
  | debug => 10
  | info => 20
  | warning => 30

inductive Diagnostic where
  | invalidPattern (pattern : String)
  | directoryExcluded (path pattern : String)
  | rootMissing (root : String)
  | discovered (sources configs manifests propertyLists : Nat) (root : String)
  | filesToScan (count : Nat) (root : String)
  | fileUnreadable (path reason : String)
  | fileFailed (error : String)
  | ruleFailed (error : String)
  | parserFailed (error : String)
  | progressFailed (reason : String)
  | scanned (files findings skipped cached : Nat)
  | cacheIgnored (path : String)
  | cacheNotSaved (error : String)
  | pruned (count : Nat)
deriving DecidableEq

namespace Diagnostic

def level : Diagnostic → Level
  | invalidPattern _ => .warning
  | scanned .. => .info
  | _ => .debug

def message : Diagnostic → String
  | invalidPattern pattern => "Invalid exclude pattern " ++ Text.quoted pattern
  | directoryExcluded path pattern =>
      "Excluded directory " ++ path ++ " by pattern " ++ Text.quoted pattern
  | rootMissing root => "Scan root " ++ root ++ " is not a directory, nothing to walk"
  | discovered sources configs manifests propertyLists root =>
      "Discovered " ++ toString sources ++ " source, " ++ toString configs ++ " config, " ++
        toString manifests ++ " manifest, " ++ toString propertyLists ++
        " property list files under " ++ root
  | filesToScan count root => toString count ++ " files to scan under " ++ root
  | fileUnreadable path reason => "Skipping unreadable file " ++ path ++ ": " ++ reason
  | fileFailed error => "Skipping file after unexpected error: " ++ error
  | ruleFailed error => "Rule failed, ignoring its findings: " ++ error
  | parserFailed error => "Parser failed, continuing without AST: " ++ error
  | progressFailed reason => "Progress callback error: " ++ reason
  | scanned files findings skipped cached =>
      "Scanned " ++ toString files ++ " files: " ++ toString findings ++ " findings, " ++
        toString skipped ++ " skipped, " ++ toString cached ++ " from cache"
  | cacheIgnored path => "Ignoring unreadable cache file " ++ path
  | cacheNotSaved error => "Could not save cache: " ++ error
  | pruned count => "Pruned " ++ toString count ++ " stale cache entries"

def line (d : Diagnostic) : String :=
  d.level.name ++ " " ++ d.message

end Diagnostic

/-- A result with what was reported on the way to it. -/
structure Logged (α : Type) where
  value : α
  logs : List Diagnostic

end MobileAudit
