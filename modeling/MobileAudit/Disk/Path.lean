import MobileAudit.Text.Split

namespace MobileAudit

/-! Paths of files and directories. -/

/-- Where a path starts.  Exactly two slashes at the front are kept apart from one. -/
inductive Anchor where
  | relative
  | root
  | doubleRoot
deriving DecidableEq

def Anchor.text : Anchor → String
  | relative => ""
  | root => "/"
  | doubleRoot => "//"

structure Path where
  anchor : Anchor
  parts : List String
deriving DecidableEq

namespace Path

def anchorOf : List Char → Anchor
  | '/' :: '/' :: '/' :: _ => .root
  | '/' :: '/' :: _ => .doubleRoot
  | '/' :: _ => .root
  | _ => .relative

/-- The names of a path text; empty ones and single points stand for nothing. -/
def partsOf (text : List Char) : List String :=
  ((Text.splitOn '/' text).filter fun part => !part.isEmpty && part != ['.']).map String.ofList

def ofText (text : String) : Path :=
  ⟨anchorOf text.toList, partsOf text.toList⟩

def text (path : Path) : String :=
  match path.anchor, path.parts with
  | .relative, [] => "."
  | anchor, parts => anchor.text ++ Text.joinTexts "/" parts

def fromRoot (parts : List String) : Path := ⟨.root, parts⟩

def isAbsolute (path : Path) : Bool := path.anchor != .relative

def join (base path : Path) : Path :=
  if path.isAbsolute then path else ⟨base.anchor, base.parts ++ path.parts⟩

def child (base : Path) (text : String) : Path := base.join (ofText text)

/-- The last name, empty if there is none. -/
def name (path : Path) : String := path.parts.getLastD ""

def parent (path : Path) : Path := { path with parts := path.parts.dropLast }

/-- The last point of a name and what follows it, with what stands before it. -/
def cutAtLastPoint (name : List Char) : Option (List Char × List Char) :=
  let tail := name.reverse.takeWhile (· != '.')
  if tail.length < name.length then
    some (name.take (name.length - tail.length - 1), '.' :: tail.reverse)
  else none

/-- The suffix of a name: from its last point on, unless that is the first or last character. -/
def suffixOf (name : String) : String :=
  match cutAtLastPoint name.toList with
  | some (before, tail) =>
      if before.isEmpty || tail.length ≤ 1 then "" else String.ofList tail
  | none => ""

def suffix (path : Path) : String := suffixOf path.name

/-- The extension of a file name: from its last point on, unless only points stand before it. -/
def extensionOf (name : String) : String :=
  match cutAtLastPoint name.toList with
  | some (before, tail) =>
      if before.all (· == '.') then "" else String.ofList tail
  | none => ""

/-- Takes one step of a way from the root: `..` goes back. -/
def walkStep (here : List String) (part : String) : List String :=
  if part == ".." then here.dropLast else here ++ [part]

/-- The names from the root of the disk to a path, seen from a directory. -/
def absoluteParts (cwd : List String) (path : Path) : List String :=
  path.parts.foldl walkStep (if path.isAbsolute then [] else cwd)

def absolute (cwd : List String) (path : Path) : Path :=
  fromRoot (absoluteParts cwd path)

def hasNull (path : Path) : Bool :=
  path.parts.any fun part => part.toList.contains '\x00'

end Path

end MobileAudit
