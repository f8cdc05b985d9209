import MobileAudit.Command.Config
import MobileAudit.Command.Scan

namespace MobileAudit.Command

/-! Command lines and what they do. -/

def versionText : String := "mobsentry version " ++ Scan.toolVersion ++ "\n"

def helpLines : List String :=
  ["Usage: mobsentry [--version] [--help] COMMAND [ARGS]", "",
    "Static security analysis for React Native and Expo apps.", "", "Commands:",
    "  scan PATH                 Scan a project directory or a single file",
    "    -j, --concurrency N     Number of files processed at once",
    "    -e, --exclude GLOB      Glob pattern to exclude (repeatable)",
    "    -i, --ignore RULE       Rule id to skip (repeatable)",
    "    --no-cache              Scan every file without the incremental cache",
    "    --clear-cache           Drop the incremental cache before scanning",
    "    -f, --format FORMAT     Output format (table, json)",
    "    -c, --config FILE       Path to a configuration file",
    "    -v, --verbose           Show skipped files and rule failures",
    "    -q, --quiet             Only print findings output and errors",
    "  config show [PATH]        Display the effective configuration",
    "    -c, --config FILE       Path to a configuration file",
    "    -f, --format FORMAT     Output format (yaml, json)",
    "    --sources               Show where each setting came from",
    "  config validate [FILE]    Validate a configuration file"]

def perform (setup : Setup) : Request → Outcome
  | .help =>
      { exitCode := Outcome.success
        fs := setup.origin.fs
        out := Console.ended (helpLines.map String.toList) }
  | .version => { exitCode := Outcome.success, fs := setup.origin.fs, out := versionText.toList }
  | .scan request => scan setup request
  | .showSettings request => showSettings setup request
  | .validateSettings file => validateSettings setup file

def refused (fs : FileSystem) (problem : Misuse) : Outcome :=
  { exitCode := Outcome.misuse, fs, err := ("Error: " ++ problem.message ++ "\n").toList }

def run (setup : Setup) (arguments : List String) : Outcome :=
  match read arguments with
  | .ok request => perform setup request
  | .error problem => refused setup.origin.fs problem

end MobileAudit.Command
