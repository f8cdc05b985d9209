import MobileAudit.Yaml.Graph
import MobileAudit.Yaml.Token

namespace MobileAudit.Yaml

/-! From tokens to nodes. -/

/-- A document while it is read: the tokens to come, the nodes so far, the anchors with their nodes,
the nodes that are not finished, and the handles of tags. -/
structure Reading where
  tokens : List Token
  graph : Graph := {}
  anchors : List (String × NodeId) := []
  unfinished : List NodeId := []
  handles : List (String × String)

namespace Reading

def peek? (r : Reading) : Option Token := r.tokens.head?

def next (r : Reading) : Reading := { r with tokens := r.tokens.drop 1 }

def comes (r : Reading) (tokens : List Token) : Bool := r.peek?.any tokens.contains

def take? (r : Reading) (token : Token) : Option Reading :=
  if r.peek? == some token then some r.next else none

def add (r : Reading) (node : Node) : NodeId × Reading :=
  let (id, graph) := r.graph.add node
  (id, { r with graph })

/-- Makes room for a node under its anchor, which must be new. -/
def reserve (r : Reading) (anchor : Option String) : Option (NodeId × Reading) :=
  let (id, r) := r.add .blank
  let r := { r with unfinished := id :: r.unfinished }
  match anchor with
  | none => some (id, r)
  | some name =>
      if (r.anchors.lookup name).isSome then none
      else some (id, { r with anchors := (name, id) :: r.anchors })

/-- Puts a node into its room. -/
def finish (r : Reading) (id : NodeId) (node : Node) : Reading :=
  { r with graph := r.graph.set id node, unfinished := r.unfinished.filter (· != id) }

def named? (r : Reading) (name : String) : Option (NodeId × Reading) :=
  (r.anchors.lookup name).map fun id =>
    if r.unfinished.contains id then (id, { r with graph.turnsBack := true }) else (id, r)

/-- A written tag in full. -/
def fullTag (r : Reading) (handle : Option String) (suffix : String) : Option String :=
  match handle with
  | none => some suffix
  | some handle => (r.handles.lookup handle).map (· ++ suffix)

structure Properties where
  anchor : Option String := none
  tag : Option (Option String × String) := none

def properties (r : Reading) : Properties × Reading :=
  match r.tokens with
  | .anchor name :: .tag handle suffix :: _ => (⟨some name, some (handle, suffix)⟩, r.next.next)
  | .tag handle suffix :: .anchor name :: _ => (⟨some name, some (handle, suffix)⟩, r.next.next)
  | .anchor name :: _ => (⟨some name, none⟩, r.next)
  | .tag handle suffix :: _ => (⟨none, some (handle, suffix)⟩, r.next)
  | _ => ({}, r)

end Reading

/-- Where a node stands: in a block, as the value of a block mapping, or inside brackets. -/
inductive Position where
  | block
  | blockValue
  | flow
deriving DecidableEq

/-- The tag of a list or mapping, which the non-specific tag leaves open. -/
def collectionTag (name : String) (tag : Option String) : String :=
  (tag.filter (· != "!")).getD (tagSpace ++ name)

/-- The tag of a scalar.  With the non-specific tag, as without one, it follows from a plain
text. -/
def scalarTag (tag : Option String) (text : String) (plain : Bool) : String :=
  match tag with
  | none => if plain then plainTag text.toList else tagSpace ++ "str"
  | some tag => if tag == "!" then plainTag text.toList else tag

def sequenceNode (tag : Option String) (items : List NodeId) : Node :=
  .sequence (collectionTag "seq" tag) items

def mappingNode (tag : Option String) (entries : List (NodeId × NodeId)) : Node :=
  .mapping (collectionTag "map" tag) entries

/-- The tokens before which a value of a block mapping is empty. -/
def blockMappingStops : List Token := [.key, .value, .blockEnd]

mutual

/-- Reads a node that may nest `depth` deep; `fuel` bounds the number of parts. -/
def readNode (fuel depth : Nat) (position : Position) (r : Reading) :
    Option (NodeId × Reading) :=
  match fuel with
  | 0 => none
  | fuel + 1 =>
      match r.peek? with
      | some (.alias name) =>
          r.next.named? name
      | _ => do
          let (props, r) := r.properties
          let tag ← match props.tag with
            | none => pure none
            | some (handle, suffix) => (r.fullTag handle suffix).map some
          let (id, r) ← r.reserve props.anchor
          let (node, r) ← readContent fuel depth position tag props.anchor.isSome r
          return (id, r.finish id node)

/-- Reads a node after its anchor and tag.  With one of them a node may be empty. -/
def readContent (fuel depth : Nat) (position : Position) (tag : Option String) (anchored : Bool)
    (r : Reading) : Option (Node × Reading) :=
  match fuel, depth with
  | 0, _ => none
  | fuel + 1, depth =>
      match r.peek?, depth with
      | some (.scalar text plain), _ =>
          some (.scalar (scalarTag tag text plain) text, r.next)
      | some .blockEntry, depth + 1 =>
          if position == .blockValue then
            (readIndentless fuel depth [] r).map fun (items, r) =>
              (sequenceNode tag items, r)
          else emptyContent tag anchored r
      | some .flowSequenceStart, depth + 1 =>
          (readFlowItems fuel depth true [] r.next).map fun (items, r) =>
            (sequenceNode tag items, r)
      | some .flowMappingStart, depth + 1 =>
          (readFlowEntries fuel depth true [] r.next).map fun (entries, r) =>
            (mappingNode tag entries, r)
      | some .blockSequenceStart, depth + 1 =>
          if position == .flow then emptyContent tag anchored r
          else (readBlockItems fuel depth [] r.next).map fun (items, r) =>
            (sequenceNode tag items, r)
      | some .blockMappingStart, depth + 1 =>
          if position == .flow then emptyContent tag anchored r
          else (readBlockEntries fuel depth [] r.next).map fun (entries, r) =>
            (mappingNode tag entries, r)
      | _, _ => emptyContent tag anchored r

/-- An empty node, where an anchor or a tag stands for it. -/
def emptyContent (tag : Option String) (anchored : Bool) (r : Reading) : Option (Node × Reading) :=
  if anchored || tag.isSome then
    some (.scalar (scalarTag tag "" true) "", r)
  else none

/-- Reads a node unless one of the given tokens shows that it is empty. -/
def readUnless (fuel depth : Nat) (stops : List Token) (position : Position) (r : Reading) :
    Option (NodeId × Reading) :=
  match fuel with
  | 0 => none
  | fuel + 1 => if r.comes stops then some (r.add .blank) else readNode fuel depth position r

/-- Reads the items of a block sequence onto those read, last first. -/
def readBlockItems (fuel depth : Nat) (items : List NodeId) (r : Reading) :
    Option (List NodeId × Reading) :=
  match fuel with
  | 0 => none
  | fuel + 1 =>
      match r.peek? with
      | some .blockEntry => do
          let (item, r) ← readUnless fuel depth [.blockEntry, .blockEnd] .block r.next
          readBlockItems fuel depth (item :: items) r
      | some .blockEnd => some (items.reverse, r.next)
      | _ => none

/-- Reads the items of a sequence that is not indented deeper than the key before it. -/
def readIndentless (fuel depth : Nat) (items : List NodeId) (r : Reading) :
    Option (List NodeId × Reading) :=
  match fuel with
  | 0 => none
  | fuel + 1 =>
      match r.peek? with
      | some .blockEntry => do
          let (item, r) ←
            readUnless fuel depth (.blockEntry :: blockMappingStops) .block r.next
          readIndentless fuel depth (item :: items) r
      | _ => some (items.reverse, r)

/-- Reads the entries of a block mapping; a key without a value has an empty one. -/
def readBlockEntries (fuel depth : Nat) (entries : List (NodeId × NodeId)) (r : Reading) :
    Option (List (NodeId × NodeId) × Reading) :=
  match fuel with
  | 0 => none
  | fuel + 1 =>
      match r.peek? with
      | some .key => do
          let (key, r) ← readUnless fuel depth blockMappingStops .blockValue r.next
          let (value, r) ← readBlockValue fuel depth r
          readBlockEntries fuel depth ((key, value) :: entries) r
      | some .blockEnd => some (entries.reverse, r.next)
      | _ => none

def readBlockValue (fuel depth : Nat) (r : Reading) : Option (NodeId × Reading) :=
  match fuel with
  | 0 => none
  | fuel + 1 =>
      match r.peek? with
      | some .value => readUnless fuel depth blockMappingStops .blockValue r.next
      | _ => some (r.add .blank)

/-- Reads the items between brackets; an item may be a single entry of a mapping. -/
def readFlowItems (fuel depth : Nat) (first : Bool) (items : List NodeId) (r : Reading) :
    Option (List NodeId × Reading) :=
  match fuel with
  | 0 => none
  | fuel + 1 =>
      match r.peek? with
      | some .flowSequenceEnd => some (items.reverse, r.next)
      | _ => do
          let r ← if first then pure r else r.take? .flowEntry
          match r.peek? with
          | some .flowSequenceEnd => return (items.reverse, r.next)
          | some .key => do
              let (key, r) ←
                readUnless fuel depth [.value, .flowEntry, .flowSequenceEnd] .flow r.next
              let (value, r) ← readFlowValue fuel depth .flowSequenceEnd r
              let (item, r) := r.add (mappingNode none [(key, value)])
              readFlowItems fuel depth false (item :: items) r
          | _ => do
              let (item, r) ← readNode fuel depth .flow r
              readFlowItems fuel depth false (item :: items) r

def readFlowEntries (fuel depth : Nat) (first : Bool) (entries : List (NodeId × NodeId))
    (r : Reading) : Option (List (NodeId × NodeId) × Reading) :=
  match fuel with
  | 0 => none
  | fuel + 1 =>
      match r.peek? with
      | some .flowMappingEnd => some (entries.reverse, r.next)
      | _ => do
          let r ← if first then pure r else r.take? .flowEntry
          match r.peek? with
          | some .flowMappingEnd => return (entries.reverse, r.next)
          | some .key => do
              let (key, r) ←
                readUnless fuel depth [.value, .flowEntry, .flowMappingEnd] .flow r.next
              let (value, r) ← readFlowValue fuel depth .flowMappingEnd r
              readFlowEntries fuel depth false ((key, value) :: entries) r
          | _ => do
              let (key, r) ← readNode fuel depth .flow r
              let (value, r) := r.add .blank
              readFlowEntries fuel depth false ((key, value) :: entries) r

/-- The value of an entry between brackets that close with the given token. -/
def readFlowValue (fuel depth : Nat) (close : Token) (r : Reading) :
    Option (NodeId × Reading) :=
  match fuel with
  | 0 => none
  | fuel + 1 =>
      match r.peek? with
      | some .value => readUnless fuel depth [.flowEntry, close] .flow r.next
      | _ => some (r.add .blank)

end

/-! Documents. -/

def defaultHandles : List (String × String) := [("!", "!"), ("!!", "tag:yaml.org,2002:")]

/-- Reads directives: at most one version, which must be 1, and each handle at most once. -/
def directives (versioned : Bool) (handles : List (String × String)) :
    List Token → Option (List (String × String) × List Token)
  | .versionDirective major :: rest =>
      if versioned || major != 1 then none else directives true handles rest
  | .tagDirective handle start :: rest =>
      if (handles.lookup handle).isSome then none
      else directives versioned ((handle, start) :: handles) rest
  | .otherDirective :: rest => directives versioned handles rest
  | rest => some (handles ++ defaultHandles, rest)

def maxDepth : Nat := 480

/-- A node together with all nodes of its document. -/
structure Document where
  root : NodeId
  graph : Graph

def Document.blank : Document := ⟨0, { nodes := #[.blank] }⟩

def readRoot (handles : List (String × String)) (tokens : List Token) :
    Option (Document × List Token) :=
  (readNode (10 * tokens.length + 10) maxDepth .block { tokens, handles }).map
    fun (root, r) => (⟨root, r.graph⟩, r.tokens)

/-- Nothing may follow the only document but its end marks. -/
def endsStream : List Token → Bool
  | [] => true
  | .documentEnd :: rest => endsStream rest
  | _ => false

def isDirective : Token → Bool
  | .versionDirective _ => true
  | .tagDirective .. => true
  | .otherDirective => true
  | _ => false

/-- The tokens that show that an explicit document is empty. -/
def startsNothing : List Token → Bool
  | [] => true
  | token :: _ => isDirective token || token == .documentStart || token == .documentEnd

/-- The only document; a text without tokens has none.  The outer option tells
whether the tokens form a document at all. -/
def document? (tokens : List Token) : Option (Option Document) := do
  if tokens.isEmpty then return none
  let (handles, rest) ←
    if tokens.head?.any isDirective then directives false [] tokens
    else pure (defaultHandles, tokens)
  let explicit := rest.head? == some .documentStart
  guard (explicit || !tokens.head?.any isDirective)
  let body := if explicit then rest.drop 1 else rest
  let (document, rest) ←
    if explicit && startsNothing body then pure (.blank, body) else readRoot handles body
  guard (endsStream rest)
  return some document

end MobileAudit.Yaml
