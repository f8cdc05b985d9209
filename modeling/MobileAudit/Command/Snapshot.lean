import MobileAudit.Command.Request
import MobileAudit.Settings.Resolve

namespace MobileAudit

/-! Which part of a disk a command needs, and what it changed there. -/

namespace Disk.Node

/-- Sets what lies at the end of a way of names; directories on the way are made. -/
def graft (node : Node) : List String → Node → Node
  | [], new => new
  | name :: rest, new =>
      let entries := match node with
        | folder entries => entries
        | file _ => []
      folder (putEntry name (((entries.lookup name).getD empty).graft rest new) entries)

mutual

/-- The files of a tree that another tree does not have in the same form, with the ways to them. -/
def changed (before : Option Node) (way : List String) : Node → List (List String × ByteArray)
  | file content =>
      match before with
      | some (file old) => if old == content then [] else [(way, content)]
      | _ => [(way, content)]
  | folder entries => changedIn before way entries

def changedIn (before : Option Node) (way : List String) :
    List (String × Node) → List (List String × ByteArray)
  | [] => []
  | (name, node) :: rest =>
      let old := match before with
        | some (folder entries) => entries.lookup name
        | _ => none
      changed old (way ++ [name]) node ++ changedIn before way rest

end

end Disk.Node

namespace Settings

def variableNames : List String :=
  variableHelp.map (·.1) ++ sectionKeys.flatMap fun (name, keys) =>
    let sectionVariable := "MOBSENTRY_" ++ Text.upper name
    sectionVariable :: keys.map fun key => sectionVariable ++ "__" ++ Text.upper key

def candidates (directory : Path) : List Path := fileNames.map directory.child

end Settings

namespace Command

open Disk

/-- The path that a command works on, and a settings file that it is given. -/
def Request.named : Request → List String
  | .scan request => request.path :: request.configFile.toList
  | .showSettings request => request.start.toList ++ request.configFile.toList
  | .validateSettings file => file.toList
  | .help | .version => []

def Request.directories (cwd : List String) (userDirectories : List Path) (request : Request) :
    List Path :=
  let starts := cwd :: request.named.map fun text => Path.absoluteParts cwd (.ofText text)
  starts.flatMap Settings.upwards ++ userDirectories

def Request.files (cwd : List String) (userDirectories : List Path)
    (environment : Settings.Environment) (request : Request) : List Path :=
  let named := request.named ++ (environment.lookup Settings.configPathVariable).toList
  (request.directories cwd userDirectories).flatMap Settings.candidates ++
    named.map fun text => Path.absolute cwd (.ofText text)

def Request.tree (cwd : List String) : Request → Option Path
  | .scan request => some (Path.absolute cwd (.ofText request.path))
  | _ => none

end Command

end MobileAudit
