import MobileAudit.Disk.Access
import MobileAudit.Fault
import MobileAudit.Settings.Environment
import MobileAudit.Settings.Format
import MobileAudit.Text.Utf8

namespace MobileAudit.Settings

/-! Settings files: where they are looked for and what they hold. -/

open Disk

inductive ConfigError where
  | notFound (path : String)
  | notFile (path : String)
  | unreadable (path : String)
  | malformed (format : Format) (path : String) (reason : Option String)
  | notMapping (path kind : String)
  | undetected (path : String)
  | unknownArgument (name : String)
  | invalid (problems : List Check.Problem)

namespace ConfigError

def message : ConfigError → String
  | notFound path => "Configuration file not found: " ++ path
  | notFile path => "Configuration path is not a file: " ++ path
  | unreadable path => "Failed to read config file " ++ path
  | malformed format path reason =>
      "Invalid " ++ format.name ++ " in " ++ path ++
        match reason with
        | some reason => ": " ++ reason
        | none => ""
  | notMapping _ kind => "Config file must contain a mapping, got: " ++ kind
  | undetected path =>
      "Could not detect format of " ++ path ++ ". Ensure it is valid YAML, TOML, or JSON."
  | unknownArgument name => "Unknown CLI setting: " ++ name
  | invalid _ => "Invalid configuration"

def key? : ConfigError → Option String
  | notFound path => some path
  | notFile path => some path
  | unreadable _ => none
  | malformed _ path _ => some path
  | notMapping path _ => some path
  | undetected path => some path
  | unknownArgument name => some name
  | invalid _ => none

def fault (error : ConfigError) : Fault := .of (.config error.key?) error.message

end ConfigError

/-- What keeps settings from being found: an error of the configuration, or a failure that goes
through it. -/
inductive Obstacle where
  | config (error : ConfigError)
  | disk (error : DiskError)
  | yaml (failure : Yaml.Failure)
  | breakdown (cause : Check.Breakdown)

/-- The names of settings files, in the order in which they are looked for. -/
def fileNames : List String :=
  [".mobsentry.yml", ".mobsentry.yaml", ".mobsentry.toml", "mobsentry.config.json", ".mobsentryrc"]

def plainFileName : String := ".mobsentryrc"

def findIn (fs : FileSystem) (directory : Path) : Except DiskError (Option Path) := do
  if !(← fs.isDirectory directory) then return none
  fileNames.foldlM (fun found name => do
    match found with
    | some path => return some path
    | none =>
        let candidate := directory.child name
        return if ← fs.isFile candidate then some candidate else none) none

def findInAll (fs : FileSystem) : List Path → Except DiskError (Option Path)
  | [] => .ok none
  | directory :: rest => do
      match ← findIn fs directory with
      | some path => return some path
      | none => findInAll fs rest

/-- A directory and those above it, nearest first. -/
def upwards (parts : List String) : List Path :=
  (List.range (parts.length + 1)).map fun i => .fromRoot (parts.take (parts.length - i))

/-- Looks for a settings file from a place upwards, then in the directories of the user. -/
def findFile (fs : FileSystem) (userDirectories : List Path) (start : Option String) :
    Except DiskError (Option Path) := do
  let start ← match start with
    | some text => if text.isEmpty then pure (.fromRoot fs.cwd) else fs.resolve (.ofText text)
    | none => pure (Path.fromRoot fs.cwd)
  let directory := if ← fs.isFile start then start.parent else start
  findInAll fs (upwards directory.parts ++ userDirectories)

def decodeAs (format : Format) (path text : String) : Except Obstacle Value.Entries :=
  match format.read text with
  | .ok v =>
      match v.bare with
      | .map entries => .ok entries
      | _ => .error (.config (.notMapping path v.kindName))
  | .error (.malformed reason) => .error (.config (.malformed format path reason))
  | .error (.yaml failure) => .error (.yaml failure)

/-- The mapping that a text holds in a format that is to be found out. -/
def decodeDetected (path text : String) : Except Obstacle Value.Entries :=
  if (text.toList.dropWhile Text.isSpace).head? == some '\x7b' then decodeAs .json path text
  else
    match decodeAs .yaml path text with
    | .error (.config _) =>
        match decodeAs .toml path text with
        | .error (.config _) => .error (.config (.undetected path))
        | other => other
    | other => other

def decodeFile (path : Path) (text : String) : Except Obstacle Value.Entries :=
  match Format.ofSuffix? (Text.lower path.suffix) with
  | some format => decodeAs format path.text text
  | none =>
      if path.name == plainFileName then decodeDetected path.text text
      else decodeAs .json path.text text

def fileEntries (fs : FileSystem) (path : Path) : Except Obstacle Value.Entries :=
  match fs.look path with
  | .error e => .error (.disk e)
  | .ok none => .error (.config (.notFound path.text))
  | .ok (some (.folder _)) => .error (.config (.notFile path.text))
  | .ok (some (.file bytes)) =>
      match Text.decodeFile? bytes with
      | none => .error (.config (.unreadable path.text))
      | some text => decodeFile path text

/-- Checks a settings file: one message for each problem. -/
def validateFile (fs : FileSystem) (environment : Environment) (path : Path) :
    Except Obstacle (List String) :=
  match fileEntries fs path with
  | .error (.config error) => .ok [error.message]
  | .error other => .error other
  | .ok entries =>
      match check environment (.map entries) with
      | .valid _ => .ok []
      | .invalid problems => .ok (problems.map (·.line))
      | .broken cause => .error (.breakdown cause)

end MobileAudit.Settings
