import MobileAudit.Disk.Fault
import MobileAudit.Disk.Node
import MobileAudit.Disk.Path

namespace MobileAudit

open Disk

/-! Access to the disk by path. -/

/-- What becomes of a write that a path allows: it is done, the disk refuses it, or the disk breaks
it off after so many bytes. -/
inductive WriteFate where
  | done
  | refused (refusal : Refusal)
  | torn (kept : Nat) (refusal : Refusal)
deriving DecidableEq

/-- A disk, seen from a current directory.  `fates` are those of the next writes; the writes after
them are done. -/
structure FileSystem where
  disk : Node := .empty
  cwd : List String := []
  fates : List WriteFate := []

namespace FileSystem

def maxNameBytes : Nat := 255

def maxPathBytes : Nat := 4095

/-- Follows names from a directory; `..` goes back to the directory above. -/
def follow (disk : Node) (here : List String) : List String → Except Refusal (List String)
  | [] => .ok here
  | name :: rest =>
      match disk.find? here with
      | some (.folder entries) =>
          if name == ".." then follow disk here.dropLast rest
          else if maxNameBytes < name.utf8ByteSize then .error .nameTooLong
          else match entries.lookup name with
            | some _ => follow disk (here ++ [name]) rest
            | none => .error .missing
      | some (.file _) => .error .notDirectory
      | none => .error .missing

def startOf (fs : FileSystem) (path : Path) : List String :=
  if path.isAbsolute then [] else fs.cwd

/-- A path that the disk can look for. -/
def admissible (path : Path) : Except DiskError Unit :=
  if path.hasNull then .error .nullByte
  else if maxPathBytes < path.text.utf8ByteSize then .error (.refused .nameTooLong path.text)
  else .ok ()

/-- The names from the root to an existing file or directory, and what is there. -/
def locate (fs : FileSystem) (path : Path) : Except DiskError (List String × Node) := do
  admissible path
  match follow fs.disk (fs.startOf path) path.parts with
  | .error refusal => throw (.refused refusal path.text)
  | .ok place =>
      match fs.disk.find? place with
      | some node => return (place, node)
      | none => throw (.refused .missing path.text)

/-- What is at a path, if anything.  Only a path that is too long is an error. -/
def look (fs : FileSystem) (path : Path) : Except DiskError (Option Node) :=
  match fs.locate path with
  | .ok (_, node) => .ok (some node)
  | .error (.refused .nameTooLong text) => .error (.refused .nameTooLong text)
  | .error _ => .ok none

def isDirectory (fs : FileSystem) (path : Path) : Except DiskError Bool :=
  (fs.look path).map fun
    | some node => node.isFolder
    | none => false

def isFile (fs : FileSystem) (path : Path) : Except DiskError Bool :=
  (fs.look path).map fun
    | some node => !node.isFolder
    | none => false

def holds (fs : FileSystem) (path : Path) : Except DiskError Bool :=
  (fs.look path).map (·.isSome)

def read (fs : FileSystem) (path : Path) : Except DiskError ByteArray := do
  match ← fs.locate path with
  | (_, .file content) => return content
  | (_, .folder _) => throw (.refused .isDirectory path.text)

/-- The directory of an entry that is to be made, the name of the entry and what has this name
already; nothing if the path names no entry. -/
def site (fs : FileSystem) (path : Path) :
    Except DiskError (Option (List String × String × Option Node)) := do
  admissible path
  match follow fs.disk (fs.startOf path) path.parts.dropLast with
  | .error refusal => throw (.refused refusal path.text)
  | .ok place =>
      match fs.disk.find? place, path.parts.getLast? with
      | some (.folder entries), some name =>
          if name == ".." then return none
          else if maxNameBytes < name.utf8ByteSize then throw (.refused .nameTooLong path.text)
          else return some (place, name, entries.lookup name)
      | some (.folder _), none => return none
      | some (.file _), _ => throw (.refused .notDirectory path.text)
      | none, _ => throw (.refused .missing path.text)

def write (fs : FileSystem) (path : Path) (content : ByteArray) : Except DiskError FileSystem := do
  match ← fs.site path with
  | none => throw (.refused .isDirectory path.text)
  | some (_, _, some (.folder _)) => throw (.refused .isDirectory path.text)
  | some (place, name, _) =>
      return { fs with disk := fs.disk.put (place ++ [name]) (.file content) }

def tryWrite (fs : FileSystem) (path : Path) (content : ByteArray) :
    FileSystem × Option DiskError :=
  let next := { fs with fates := fs.fates.tail }
  match next.write path content, fs.fates.head?.getD .done with
  | .error e, _ => (next, some e)
  | .ok written, .done => (written, none)
  | .ok _, .refused refusal => (next, some (.refused refusal path.text))
  | .ok _, .torn kept refusal =>
      match next.write path (content.extract 0 kept) with
      | .ok written => (written, some (.refused refusal path.text))
      | .error e => (next, some e)

/-- Makes one directory, whose parent must exist. -/
def makeDirectory (fs : FileSystem) (path : Path) : Except DiskError FileSystem := do
  match ← fs.site path with
  | none => throw (.refused .present path.text)
  | some (_, _, some _) => throw (.refused .present path.text)
  | some (place, name, none) =>
      return { fs with disk := fs.disk.put (place ++ [name]) .empty }

/-- A failure to make a directory counts only if none is there. -/
def unlessDirectory (fs : FileSystem) (path : Path) (error : DiskError) :
    Except DiskError FileSystem := do
  if ← fs.isDirectory path then return fs else throw error

/-- Makes a directory unless it exists, after those above it, given the names of the path in
reverse. -/
def makeAlong (fs : FileSystem) (anchor : Anchor) : List String → Except DiskError FileSystem
  | [] =>
      let path : Path := ⟨anchor, []⟩
      match fs.makeDirectory path with
      | .ok fs => .ok fs
      | .error (.refused .missing text) => .error (.refused .missing text)
      | .error .nullByte => .error .nullByte
      | .error e => fs.unlessDirectory path e
  | name :: above =>
      let path : Path := ⟨anchor, (name :: above).reverse⟩
      match fs.makeDirectory path with
      | .ok fs => .ok fs
      | .error (.refused .missing _) =>
          match fs.makeAlong anchor above with
          | .error e => .error e
          | .ok fs =>
              match fs.makeDirectory path with
              | .ok fs => .ok fs
              | .error .nullByte => .error .nullByte
              | .error (.refused .missing text) => .error (.refused .missing text)
              | .error e => fs.unlessDirectory path e
      | .error .nullByte => .error .nullByte
      | .error e => fs.unlessDirectory path e

def makeDirectories (fs : FileSystem) (path : Path) : Except DiskError FileSystem :=
  fs.makeAlong path.anchor path.parts.reverse

/-- The path from the root, with every `..` taken. -/
def resolve (fs : FileSystem) (path : Path) : Except DiskError Path :=
  if path.hasNull then .error .nullByte else .ok (path.absolute fs.cwd)

end FileSystem

end MobileAudit
