namespace MobileAudit.Disk

/-! Files and directories as a tree. -/

inductive Node where
  | file (content : ByteArray)
  | folder (entries : List (String × Node))

namespace Node

def empty : Node := folder []

def isFolder : Node → Bool
  | folder _ => true
  | file _ => false

def find? : Node → List String → Option Node
  | node, [] => some node
  | file _, _ :: _ => none
  | folder entries, name :: rest =>
      match entries.lookup name with
      | some child => child.find? rest
      | none => none

/-- Sets the entry of a name: a known name keeps its place, a new one goes to the end. -/
def putEntry (name : String) (node : Node) : List (String × Node) → List (String × Node)
  | [] => [(name, node)]
  | (n, old) :: rest =>
      if n == name then (n, node) :: rest else (n, old) :: putEntry name node rest

/-- Sets what lies at the end of a way of names.  Nothing changes if the way to it is blocked. -/
def put (node : Node) : List String → Node → Node
  | [], new => new
  | name :: rest, new =>
      match node with
      | file content => file content
      | folder entries =>
          match rest, entries.lookup name with
          | [], _ => folder (putEntry name new entries)
          | _, some child => folder (putEntry name (child.put rest new) entries)
          | _, none => folder entries

def erase (node : Node) : List String → Node
  | [] => node
  | name :: rest =>
      match node with
      | file content => file content
      | folder entries =>
          match rest, entries.lookup name with
          | [], _ => folder (entries.filter fun (n, _) => n != name)
          | _, some child => folder (putEntry name (child.erase rest) entries)
          | _, none => folder entries

@[simp] theorem find?_nil (node : Node) : node.find? [] = some node := by
  cases node <;> rfl

end Node

end MobileAudit.Disk
