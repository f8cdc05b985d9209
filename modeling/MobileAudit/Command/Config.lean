import MobileAudit.Command.Outcome
import MobileAudit.Command.Request
import MobileAudit.Yaml.Write

namespace MobileAudit.Command

/-! The commands that show and validate settings. -/

open Disk

def sourceTable (sources : Settings.Sources) : Console.Table where
  title := "Configuration Sources".toList
  header := ["Setting", "Source"]
  rows := (sources.mergeSort fun a b => decide (a.1 ≤ b.1)).map fun (name, source) =>
    [name.toList, source.name.toList]

def variableTable (environment : Settings.Environment) : Console.Table where
  title := "Environment Variables".toList
  header := ["Variable", "Description", "Value"]
  rows := Settings.variableHelp.map fun (name, help) =>
    [name.toList, help.toList, ((environment.lookup name).getD "-").toList]

def printTables (fs : FileSystem) (out : List Char) : List Console.Table → Outcome
  | [] => { exitCode := Outcome.success, fs, out }
  | table :: rest =>
      match table.lines with
      | .ok lines => printTables fs (out ++ Console.ended lines) rest
      | .error e => .crashed fs out e.message

def fileLine : Option Path → List Char
  | some path => Markup.styled "dim" "Config file:" ++ ' ' :: path.text.toList
  | none => Markup.styled "dim" "No config file found, using defaults"

def printSettings (setup : Setup) (resolved : Settings.Resolved) (sources : Bool) : Outcome :=
  let fs := setup.origin.fs
  match Markup.render (fileLine resolved.file) with
  | .error e => .crashed fs [] e.message
  | .ok line =>
      printTables fs (line ++ '\n' :: (Yaml.write resolved.settings.toValue).toList)
        (if sources then
          [sourceTable resolved.sources, variableTable setup.origin.environment]
        else [])

def showSettings (setup : Setup) (request : ShowRequest) : Outcome :=
  let fs := setup.origin.fs
  let format := Text.lower request.format
  if format != "yaml" && format != "json" then
    .configFailed fs ("Unsupported format: " ++ format ++ ". Use yaml or json.") none
  else
    match Settings.resolve setup.origin
        { configPath := request.configFile, start := request.start } with
    | .error obstacle => .obstructed fs obstacle
    | .ok resolved =>
        if format == "json" then
          { exitCode := Outcome.success
            fs
            out := (Json.write .settings resolved.settings.toValue).toList ++ ['\n'] }
        else printSettings setup resolved request.sources

def printProblems (fs : FileSystem) (path : Path) (problems : List String) : Outcome :=
  let shown := Markup.escape path.text.toList
  if problems.isEmpty then
    let line := Markup.styled "green" "Configuration is valid:" ++ ' ' :: shown
    .printed fs [] Outcome.success ((Markup.render line).map (· ++ ['\n']))
  else
    let heading := Markup.styled "bold red" "Validation failed" ++ " for ".toList ++ shown
    let items := problems.map fun problem => '-' :: ' ' :: Markup.escape problem.toList
    .failed fs [] "Config Error" (heading ++ "\n\n".toList ++ Text.joinWith ['\n'] items)

def validateSettings (setup : Setup) (file : Option String) : Outcome :=
  let fs := setup.origin.fs
  let chosen : Except DiskError (Option Path) := match file with
    | some text => .ok (some (.ofText text))
    | none => Settings.findFile fs setup.origin.userDirectories none
  match chosen with
  | .error e => .crashed fs [] e.message
  | .ok none => .configFailed fs "No config file found" none
  | .ok (some path) =>
      match Settings.validateFile fs setup.origin.environment path with
      | .error obstacle => .obstructed fs obstacle
      | .ok problems => printProblems fs path problems

end MobileAudit.Command
