import MobileAudit.Yaml.Graph

namespace MobileAudit.Yaml

/-! What nodes hold.  Scalars have their values at once; lists and mappings are filled one after the
other in the order in which they are met, the outer ones first, and the first failure counts. -/

/-- A value, or the list or mapping of a node. -/
inductive Part where
  | value (v : Value)
  | node (id : NodeId)

inductive Content where
  | list (items : List Part)
  | pairs (items : List (Part × Part))
  | map (entries : List (Value × Part))
  | set (keys : List Value)

namespace Content

/-- Sets an entry: a present key keeps its place and its spelling, a new one goes to the end. -/
def put (key : Value) (part : Part) : List (Value × Part) → List (Value × Part)
  | [] => [(key, part)]
  | (k, p) :: rest => if k.sameKey key then (k, part) :: rest else (k, p) :: put key part rest

def parts : Content → List Part
  | list items => items
  | pairs items => items.flatMap fun (k, v) => [k, v]
  | map entries => entries.map (·.2)
  | set _ => []

def nodes (content : Content) : List NodeId :=
  content.parts.filterMap fun
    | .node id => some id
    | .value _ => none

end Content

/-- The value of a text under a tag for scalars. -/
def scalarValue? (tag : String) : Option (String → Except Failure Value) :=
  [(tagSpace ++ "null", fun _ => .ok .null),
    (tagSpace ++ "bool", truthOf),
    (tagSpace ++ "int", fun s => integerOf s.toList),
    (tagSpace ++ "float", fun s => floatOf s.toList),
    (tagSpace ++ "timestamp", fun s => momentOf s.toList),
    (tagSpace ++ "str", fun s => .ok (.text s)),
    (tagSpace ++ "binary", fun s =>
      match Text.decodeBase64? s.toList with
      | some bytes => .ok (.bytes bytes)
      | none => .error .malformed)].lookup tag

inductive Shape where
  | list
  | pairs
  | map
  | set
deriving DecidableEq

def shape? (tag : String) : Option Shape :=
  [(tagSpace ++ "seq", Shape.list), (tagSpace ++ "omap", .pairs), (tagSpace ++ "pairs", .pairs),
    (tagSpace ++ "map", .map), (tagSpace ++ "set", .set)].lookup tag

/-- A document while it is filled: the nodes, those that have been met in their order, and what
lists and mappings hold. -/
structure Filling where
  graph : Graph
  met : Array NodeId := #[]
  isMet : Array Bool
  contents : Array Content

abbrev Fill (α : Type) := StateT Filling (Except Failure) α

namespace Filling

def ofGraph (graph : Graph) : Filling :=
  { graph
    isMet := Array.replicate graph.nodes.size false
    contents := Array.replicate graph.nodes.size (.list []) }

/-- Notes a list or mapping, if it has not been met. -/
def meet (id : NodeId) (f : Filling) : Filling :=
  if f.isMet.getD id true then f
  else { f with met := f.met.push id, isMet := f.isMet.setIfInBounds id true }

def store (id : NodeId) (content : Content) (f : Filling) : Filling :=
  { f with contents := f.contents.setIfInBounds id content }

end Filling

/-- The value of a scalar, or a list or mapping that is filled later. -/
def part (id : NodeId) : Fill Part := do
  let graph := (← get).graph
  let tag := (graph.get id).tag
  match scalarValue? tag with
  | some read =>
      match graph.scalarText? (graph.nodes.size + 1) id with
      | some text => return .value (← read text)
      | none => throw .malformed
  | none =>
      if (shape? tag).isSome then
        modify (·.meet id)
        return .node id
      else throw .malformed

/-- The key of an entry; a list or mapping is none. -/
def keyValue (id : NodeId) : Fill Value := do
  match ← part id with
  | .value v => return v
  | .node _ => throw .malformed

/-- The entries of a mapping with those that it takes up. -/
def entriesOf (id : NodeId) : Fill (List (Value × Part)) := do
  match (← get).graph.get id with
  | .mapping .. =>
      match (← get).graph.flattened id with
      | none => throw .malformed
      | some graph =>
          modify ({ · with graph })
          (graph.entries id).foldlM (fun entries (k, v) => do
            let key ← keyValue k
            return Content.put key (← part v) entries) []
  | _ => throw .malformed

def itemsOf (id : NodeId) : Fill (List NodeId) := do
  match (← get).graph.get id with
  | .sequence _ items => return items
  | _ => throw .malformed

def pairOf (id : NodeId) : Fill (Part × Part) := do
  match (← get).graph.get id with
  | .mapping _ [(k, v)] => return (← part k, ← part v)
  | _ => throw .malformed

def contentOf (id : NodeId) : Fill Content := do
  match shape? ((← get).graph.get id).tag with
  | some .list => return .list (← (← itemsOf id).mapM part)
  | some .pairs => return .pairs (← (← itemsOf id).mapM pairOf)
  | some .map => return .map (← entriesOf id)
  | some .set => return .set ((← entriesOf id).map (·.1))
  | none => throw .malformed

/-- Fills the lists and mappings that have been met, from the given one on.  Each node is met once,
so `fuel` nodes bound them. -/
def fillFrom : Nat → Nat → Fill Unit
  | 0, _ => pure ()
  | fuel + 1, index => do
      match (← get).met[index]? with
      | none => pure ()
      | some id =>
          let content ← contentOf id
          modify (·.store id content)
          fillFrom fuel (index + 1)

/-! From contents to values. -/

/-- Contents of all lists and mappings, with those that hold themselves. -/
structure Filled where
  contents : Array Content
  loops : List NodeId

/-- The lists and mappings that can be reached from the given ones. -/
def reachable (contents : Array Content) : Nat → List NodeId → List NodeId → List NodeId
  | 0, _, seen => seen
  | _, [], seen => seen
  | fuel + 1, id :: rest, seen =>
      if seen.contains id then reachable contents fuel rest seen
      else
        let inner := ((contents[id]?).map (·.nodes)).getD []
        reachable contents fuel (inner ++ rest) (id :: seen)

def Filled.ofFilling (f : Filling) : Filled :=
  let edges := (f.contents.map fun c => c.nodes.length).foldl (· + ·) 0
  let holdsItself := fun id =>
    let inner := ((f.contents[id]?).map (·.nodes)).getD []
    (reachable f.contents (inner.length + edges + f.contents.size + 1) inner []).contains id
  { contents := f.contents
    loops := if f.graph.turnsBack then f.met.toList.filter holdsItself else [] }

/-- How many levels of a document are looked at one by one, so that what they hold is spelled out
even where it repeats what is around it. -/
def openLevels : Nat := 4

namespace Filled

/-- The label of a pair: no node and no other pair has it. -/
def pairLabel (filled : Filled) (id : NodeId) (index : Nat) : Nat :=
  filled.contents.size * (index + 1) + id

/-- The value of a part at a level; `around` are the lists and mappings around it below the open
levels.  Their number and that of the open levels bound the depth. -/
def valueAt (filled : Filled) : Nat → Nat → List NodeId → Part → Value
  | 0, _, _, _ => .null
  | _, _, _, .value v => v
  | fuel + 1, level, around, .node id =>
      if around.contains id then .back id
      else
        let around := if level < openLevels then [] else id :: around
        let inner := filled.valueAt fuel (level + 1) around
        let labelled := fun label (v : Value) =>
          if filled.loops.contains id then Value.loop label v else v
        labelled id (match filled.contents.getD id (.list []) with
          | .list items => .list (items.map inner)
          | .pairs items => .list (items.mapIdx fun index (k, v) =>
              labelled (filled.pairLabel id index) (.tuple [inner k, inner v]))
          | .map entries => .map (entries.map fun (k, v) => (k, inner v))
          | .set keys => .set keys)

def value (filled : Filled) (part : Part) : Value :=
  filled.valueAt (filled.contents.size + openLevels + 2) 0 [] part

end Filled

def Graph.value (graph : Graph) (root : NodeId) : Except Failure Value := do
  let run : Fill Part := do
    let part ← part root
    fillFrom (graph.nodes.size + 1) 0
    return part
  let (part, filling) ← run (.ofGraph graph)
  return (Filled.ofFilling filling).value part

end MobileAudit.Yaml
