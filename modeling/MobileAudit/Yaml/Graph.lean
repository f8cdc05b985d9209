import MobileAudit.Yaml.Schema

namespace MobileAudit.Yaml

/-! The nodes of a document.  A node holds the numbers of others, so that an alias stands for the
very node it names, even inside that node. -/

abbrev NodeId := Nat

inductive Node where
  | scalar (tag text : String)
  | sequence (tag : String) (items : List NodeId)
  | mapping (tag : String) (entries : List (NodeId × NodeId))
deriving DecidableEq

namespace Node

/-- The node of an empty text. -/
def blank : Node := scalar (tagSpace ++ "null") ""

def tag : Node → String
  | scalar tag _ => tag
  | sequence tag _ => tag
  | mapping tag _ => tag

end Node

structure Graph where
  nodes : Array Node := #[]
  /-- Whether some alias stands inside the node that it names. -/
  turnsBack : Bool := false

namespace Graph

def get (g : Graph) (id : NodeId) : Node := g.nodes.getD id .blank

def set (g : Graph) (id : NodeId) (node : Node) : Graph :=
  { g with nodes := g.nodes.setIfInBounds id node }

/-- Adds a node; its number is that of the nodes before it. -/
def add (g : Graph) (node : Node) : NodeId × Graph :=
  (g.nodes.size, { g with nodes := g.nodes.push node })

def hasTag (g : Graph) (id : NodeId) (name : String) : Bool :=
  (g.get id).tag == tagSpace ++ name

/-! The key `<<` takes up entries of other mappings, before the mapping's own ones. -/

/-- The value of the first key `<<` and the entries without it. -/
def takeMerge? (g : Graph) :
    List (NodeId × NodeId) → Option (NodeId × List (NodeId × NodeId))
  | [] => none
  | (key, value) :: rest =>
      if g.hasTag key "merge" then some (value, rest)
      else (g.takeMerge? rest).map fun (found, others) => (found, (key, value) :: others)

/-- A key `=` stands for its text. -/
def nameKeys (g : Graph) (entries : List (NodeId × NodeId)) : Graph :=
  entries.foldl (fun g (key, _) =>
    match g.get key with
    | .scalar tag text =>
        if tag == tagSpace ++ "value" then g.set key (.scalar (tagSpace ++ "str") text) else g
    | _ => g) g

def entries (g : Graph) (id : NodeId) : List (NodeId × NodeId) :=
  match g.get id with
  | .mapping _ entries => entries
  | _ => []

/-- Puts the entries that a mapping takes up before its own ones, after those in `taken`.  Every
step takes out a key `<<`, so their number bounds the steps; nothing if such a key has a value that
is neither a mapping nor a list of mappings. -/
def flatten : Nat → NodeId → List (NodeId × NodeId) → Graph → Option Graph
  | 0, _, _, _ => none
  | fuel + 1, id, taken, g =>
      match g.get id with
      | .mapping tag entries =>
          match g.takeMerge? entries with
          | none =>
              let g := g.nameKeys entries
              some (if taken.isEmpty then g else g.set id (.mapping tag (taken ++ entries)))
          | some (source, own) => do
              let g := g.set id (.mapping tag own)
              match g.get source with
              | .mapping .. =>
                  let g ← flatten fuel source [] g
                  flatten fuel id (taken ++ g.entries source) g
              | .sequence _ items =>
                  let (found, g) ← items.foldlM (fun (found, g) item => do
                    let g ← flatten fuel item [] g
                    return (g.entries item ++ found, g)) (([] : List (NodeId × NodeId)), g)
                  flatten fuel id (taken ++ found) g
              | .scalar .. => none
      | _ => none

/-- How many keys `<<` there are, each counted where it stands. -/
def mergeCount (g : Graph) : Nat :=
  g.nodes.foldl (fun count node =>
    match node with
    | .mapping _ entries => count + entries.countP fun (key, _) => g.hasTag key "merge"
    | _ => count) 0

/-- A mapping with the entries that it takes up. -/
def flattened (g : Graph) (id : NodeId) : Option Graph :=
  let steps := if (g.takeMerge? (g.entries id)).isSome then g.mergeCount else 0
  flatten (steps + 1) id [] g

/-- The text of a scalar, or of the scalar under the key `=` of a mapping. -/
def scalarText? (g : Graph) : Nat → NodeId → Option String
  | 0, _ => none
  | fuel + 1, id =>
      match g.get id with
      | .scalar _ text => some text
      | .mapping _ entries =>
          match entries.find? fun (key, _) => g.hasTag key "value" with
          | some (_, value) => g.scalarText? fuel value
          | none => none
      | .sequence .. => none

end Graph

end MobileAudit.Yaml
