import MobileAudit.Discovery.FileKind
import MobileAudit.Disk.Access
import MobileAudit.Exclusion.PathFilter
import MobileAudit.Settings.Basic

namespace MobileAudit

open Disk Exclusion

/-! Finding the files of a project.  Directories that the filter excludes are not entered. -/

/-- Files by kind, each kind sorted by path. -/
structure FileGroup where
  sources : List String := []
  configs : List String := []
  manifests : List String := []
  propertyLists : List String := []
deriving DecidableEq

namespace FileGroup

def all (group : FileGroup) : List String :=
  group.sources ++ (group.configs ++ (group.manifests ++ group.propertyLists))

def count (group : FileGroup) : Nat :=
  group.sources.length + group.configs.length + group.manifests.length +
    group.propertyLists.length

end FileGroup

namespace Discovery

/-- What is never looked at: dependencies, hidden directories, build output, tests and the cache
file of the tool. -/
def defaultExcludes : List String :=
  ["node_modules/", "Pods/", "bower_components/", ".*/", "build/", "dist/", "coverage/", "*.test.*",
    "*.spec.*", "__tests__/", "__mocks__/", defaultCacheFile]

/-- The filter of a project: the default patterns, then further ones. -/
def projectFilter (excludes : List String) :
    Logged (Except Pattern.Breakdown PathFilter) :=
  PathFilter.ofPatterns (defaultExcludes ++ excludes)

/-- A file of the project, by the names that lead to it from the project's root. -/
structure Found where
  kind : FileKind
  parts : List String
deriving DecidableEq

def relativeText (parts : List String) : String := Text.joinTexts "/" parts

/-- A file under a name, if it is of a kind and the filter lets it through. -/
def visitFile (filter : PathFilter) (above : List String) (name : String) : List Found :=
  (FileKind.ofName? name).elim [] fun kind =>
    if filter.excludes (relativeText (above ++ [name])).toList false then []
    else [⟨kind, above ++ [name]⟩]

def exclusionOf? (filter : PathFilter) (above : List String) (name : String) :
    Option Diagnostic :=
  let path := relativeText (above ++ [name])
  let verdict := filter.check path.toList true
  if verdict.excluded then some (.directoryExcluded path (verdict.decidedBy.getD "")) else none

mutual

/-- The files at and beneath an entry of the directory that `above` leads to. -/
def visit (filter : PathFilter) (above : List String) (name : String) :
    Node → List Found × List Diagnostic
  | .file _ => (visitFile filter above name, [])
  | .folder entries =>
      match exclusionOf? filter above name with
      | some excluded => ([], [excluded])
      | none => visitAll filter (above ++ [name]) entries

def visitAll (filter : PathFilter) (above : List String) :
    List (String × Node) → List Found × List Diagnostic
  | [] => ([], [])
  | (name, node) :: rest =>
      let (here, hereLogs) := visit filter above name node
      let (more, moreLogs) := visitAll filter above rest
      (here ++ more, hereLogs ++ moreLogs)

end

def pathsOf (root : Path) (found : List Found) (kind : FileKind) : List String :=
  ((found.filter (·.kind == kind)).map fun f => (Path.mk root.anchor (root.parts ++ f.parts)).text)
    |>.mergeSort fun a b => decide (a ≤ b)

def groupOf (root : Path) (found : List Found) : FileGroup where
  sources := pathsOf root found .source
  configs := pathsOf root found .config
  manifests := pathsOf root found .manifest
  propertyLists := pathsOf root found .propertyList

def walkEntries (filter : PathFilter) (root : Path) (entries : List (String × Node)) :
    Logged FileGroup :=
  let (found, logs) := visitAll filter [] entries
  let group := groupOf root found
  ⟨group, logs ++ [.discovered group.sources.length group.configs.length group.manifests.length
    group.propertyLists.length root.text]⟩

/-- What keeps the files of a project from being found. -/
inductive Failure where
  | disk (error : DiskError)
  | pattern (cause : Pattern.Breakdown)

/-- The files of the project at a path.  What is no directory has none. -/
def walk (fs : FileSystem) (excludes : List String) (path : Path) :
    Logged (Except Failure FileGroup) :=
  let made := projectFilter excludes
  match made.value with
  | .error cause => ⟨.error (.pattern cause), made.logs⟩
  | .ok filter =>
      match fs.resolve path with
      | .error e => ⟨.error (.disk e), made.logs⟩
      | .ok root =>
          match fs.look root with
          | .error e => ⟨.error (.disk e), made.logs⟩
          | .ok (some (.folder entries)) =>
              let walked := walkEntries filter root entries
              ⟨.ok walked.value, made.logs ++ walked.logs⟩
          | .ok _ => ⟨.ok {}, made.logs ++ [.rootMissing root.text]⟩

end Discovery

end MobileAudit
