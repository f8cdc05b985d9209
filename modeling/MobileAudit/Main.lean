import MobileAudit.Command.Run
import MobileAudit.Command.Snapshot
import Std.Time.DateTime.Timestamp

namespace MobileAudit.Main

/-! The command line on a real disk: what a command needs is read, the command runs on it, and what
it changed is written. -/

open Disk Command

/-- Reads what is at a path, with everything below it if `deep` holds.  Links and what cannot be
read are passed over. -/
partial def load (deep : Bool) (path : Path) : IO (Option Node) := do
  try
    let place ← IO.FS.realPath path.text
    if place.toString != path.text then return none
    if !(← place.isDir) then return some (.file (← IO.FS.readBinFile place))
    if !deep then return some .empty
    let mut entries := []
    for entry in ← place.readDir do
      if let some node ← load deep { path with parts := path.parts ++ [entry.fileName] } then
        entries := (entry.fileName, node) :: entries
    return some (.folder entries)
  catch _ => return none

def add (disk : Node) (deep : Bool) (path : Path) : IO Node := do
  if !deep && (disk.find? path.parts).isSome then return disk
  match ← load deep path with
  | some node => return disk.graft path.parts node
  | none => return disk

def readEnvironment : IO Settings.Environment :=
  Settings.variableNames.filterMapM fun name => do
    return (← IO.getEnv name).map fun raw => (name, raw)

def userDirectories : IO (List Path) := do
  match ← IO.getEnv "HOME" with
  | some home =>
      let home := Path.ofText home
      return [(home.child ".config").child "mobsentry", home.child ".mobsentry"]
  | none => return []

/-- The part of the disk that a request needs. -/
def snapshot (cwd : Path) (userDirectories : List Path) (environment : Settings.Environment)
    (request : Request) : IO FileSystem := do
  let mut disk ← add .empty false cwd
  for tree in request.tree cwd.parts do
    disk ← add disk true tree
  for directory in request.directories cwd.parts userDirectories do
    disk ← add disk false directory
  for file in request.files cwd.parts userDirectories environment do
    disk ← add disk false file
  return { disk, cwd := cwd.parts }

def setup (request : Request) : IO Setup := do
  let cwd := Path.ofText (← IO.currentDir).toString
  let environment ← readEnvironment
  let userDirectories ← userDirectories
  let fs ← snapshot cwd userDirectories environment request
  let now := (← Std.Time.Timestamp.now).toMillisecondsSinceUnixEpoch.val
  return { origin := { fs, environment, userDirectories }, now }

/-- Prints what a command printed, writes what it changed and gives its exit code. -/
def conclude (before : FileSystem) (outcome : Outcome) : IO UInt32 := do
  for (way, content) in outcome.fs.disk.changed (some before.disk) [] do
    IO.FS.writeBinFile (Path.fromRoot way).text content
  IO.print (String.ofList outcome.out)
  IO.eprint (String.ofList outcome.err)
  if let some reason := outcome.crash then IO.eprintln reason
  return UInt32.ofNat outcome.exitCode

end MobileAudit.Main

open MobileAudit in
def main (arguments : List String) : IO UInt32 := do
  match Command.read arguments with
  | .ok request =>
      let setup ← Main.setup request
      Main.conclude setup.origin.fs (Command.perform setup request)
  | .error problem => Main.conclude {} (Command.refused {} problem)
