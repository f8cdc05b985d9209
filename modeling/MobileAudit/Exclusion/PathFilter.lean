import MobileAudit.Diagnostic
import MobileAudit.Exclusion.Glob
import MobileAudit.Pattern.Reader
import MobileAudit.Text.Split

namespace MobileAudit.Exclusion

/-! Filters of project-relative paths.  A pattern without a slash holds at any depth, one with a
slash from the project root on unless it starts with `**/`; a trailing slash restricts it to
directories and what lies beneath them, and `!` takes paths back in.  The last pattern that matches
decides. -/

open Pattern

structure PathRule where
  source : String
  /-- Matches a path of the pattern and everything beneath it. -/
  atOrBeneath : Pattern
  /-- Matches only what lies beneath a path of the pattern. -/
  beneath : Pattern
  reincludes : Bool
  directoriesOnly : Bool
  anchored : Bool

namespace PathRule

def applies (rule : PathRule) (path : List Char) (isDirectory : Bool) : Bool :=
  if rule.directoriesOnly && !isDirectory then rule.beneath.matchesStart path
  else rule.atOrBeneath.matchesStart path

end PathRule

/-- What becomes of a pattern.  One that is invalid is left out with a warning; one that breaks down
takes the filter with it. -/
inductive Compiled where
  | ignored
  | invalid (pattern : String)
  | broken (cause : Breakdown)
  | rule (r : PathRule)

/-! What surrounds the pattern of a glob, and its text. -/

/-- Where a path of a glob may begin. -/
def startPattern (anchored : Bool) : Pattern :=
  if anchored then .textStart else .textStart <|> CharSet.notNewline.many ++ lit "/"

def startText (anchored : Bool) : List Char :=
  (if anchored then "^" else "(?:^|.*/)").toList

def belowIt : Pattern := lit "/" ++ CharSet.notNewline.many

/-- How a path goes on: beneath a path of the glob, or possibly not at all. -/
def endPattern (onlyBeneath : Bool) : Pattern :=
  (if onlyBeneath then belowIt else optional belowIt) ++ .textEnd

def endText (onlyBeneath : Bool) : List Char :=
  (if onlyBeneath then "/.*$" else "(?:/.*)?$").toList

/-- The pattern of paths.  If a bracket expression of the glob is no set of its own, it takes in
text that follows it or leaves some of its own behind, and the pattern is read from the whole
text. -/
def pathPattern (caseSensitive anchored onlyBeneath : Bool) (parts : List GlobPart) :
    Except Failure Pattern :=
  match partsPattern? parts with
  | some glob =>
      let pattern := startPattern anchored ++ (glob ++ endPattern onlyBeneath)
      .ok (if caseSensitive then pattern else pattern.ignoringCase)
  | none =>
      Pattern.read (!caseSensitive) (startText anchored ++ partsText parts ++ endText onlyBeneath)

/-- The pattern without signs, with the signs found on it. -/
structure PatternSigns where
  body : List Char
  reincludes : Bool
  directoriesOnly : Bool
  anchored : Bool

def readSigns (pattern : List Char) : PatternSigns :=
  let reincludes := pattern.head? == some '!'
  let pattern := if reincludes then pattern.drop 1 else pattern
  let directoriesOnly := pattern.getLast? == some '/'
  let pattern := if directoriesOnly then Text.dropRightWhile (· == '/') pattern else pattern
  if pattern.head? == some '/' then
    ⟨pattern.dropWhile (· == '/'), reincludes, directoriesOnly, true⟩
  else
    ⟨pattern, reincludes, directoriesOnly,
      pattern.contains '/' && !"**/".toList.isPrefixOf pattern⟩

/-- The rule of a pattern without blanks at its ends. -/
def readRule (caseSensitive : Bool) (trimmed : List Char) : Except Failure PathRule := do
  let signs := readSigns trimmed
  let paths := fun onlyBeneath =>
    pathPattern caseSensitive signs.anchored onlyBeneath (globParts signs.body)
  return {
    source := String.ofList trimmed
    atOrBeneath := ← paths false
    beneath := ← paths true
    reincludes := signs.reincludes
    directoriesOnly := signs.directoriesOnly
    anchored := signs.anchored }

def compile (caseSensitive : Bool) (pattern : String) : Compiled :=
  let trimmed := Text.trim pattern.toList
  if trimmed.isEmpty || trimmed.head? == some '#' then .ignored
  else
    match readRule caseSensitive trimmed with
    | .ok rule => .rule rule
    | .error .malformed => .invalid (String.ofList trimmed)
    | .error (.broken cause) => .broken cause

structure PathFilter where
  caseSensitive : Bool
  /-- The patterns in effect, as they were given. -/
  patterns : List String
  rules : List PathRule

structure Verdict where
  path : List Char
  excluded : Bool
  decidedBy : Option String
deriving DecidableEq

namespace PathFilter

def empty (caseSensitive : Bool) : PathFilter := ⟨caseSensitive, [], []⟩

/-- Takes up what has become of a pattern. -/
def accept (filter : PathFilter) (pattern : String) :
    Compiled → Logged (Except Breakdown PathFilter)
  | .ignored => ⟨.ok filter, []⟩
  | .invalid source => ⟨.ok filter, [.invalidPattern source]⟩
  | .broken cause => ⟨.error cause, []⟩
  | .rule r =>
      ⟨.ok { filter with patterns := filter.patterns ++ [pattern], rules := filter.rules ++ [r] },
        []⟩

def add (filter : PathFilter) (pattern : String) : Logged (Except Breakdown PathFilter) :=
  filter.accept pattern (compile filter.caseSensitive pattern)

/-- Adds patterns one after the other, up to one that breaks down. -/
def addAll (filter : PathFilter) : List String → Logged (Except Breakdown PathFilter)
  | [] => ⟨.ok filter, []⟩
  | pattern :: rest =>
      let added := filter.add pattern
      match added.value with
      | .error cause => ⟨.error cause, added.logs⟩
      | .ok filter =>
          let more := filter.addAll rest
          ⟨more.value, added.logs ++ more.logs⟩

def ofPatterns (patterns : List String) : Logged (Except Breakdown PathFilter) :=
  (empty true).addAll patterns

/-- A path with forward slashes only and none at its ends. -/
def normalize (path : List Char) : List Char :=
  Text.trimWhere (· == '/') (Text.replaceChar '\\' '/' path)

def decidingRule? (filter : PathFilter) (path : List Char) (isDirectory : Bool) :
    Option PathRule :=
  filter.rules.reverse.find? (·.applies path isDirectory)

def check (filter : PathFilter) (path : List Char) (isDirectory : Bool) : Verdict :=
  let path := normalize path
  match filter.decidingRule? path isDirectory with
  | some rule => ⟨path, !rule.reincludes, some rule.source⟩
  | none => ⟨path, false, none⟩

def excludes (filter : PathFilter) (path : List Char) (isDirectory : Bool) : Bool :=
  (filter.check path isDirectory).excluded

def description (filter : PathFilter) : String :=
  "PathFilter(patterns=[" ++ Text.joinTexts ", " (filter.patterns.map Text.quoted) ++ "])"

end PathFilter

end MobileAudit.Exclusion
