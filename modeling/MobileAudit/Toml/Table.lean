import MobileAudit.Document.Value

namespace MobileAudit.Toml

/-! Tables under construction, and the rules on defining a table only once. -/

abbrev Key := List String

/-- Goes along a key, making tables that are missing, and changes the table at its end.  With
`intoLists` a list of tables stands for its last one. -/
def alter (intoLists : Bool) (change : Value.Entries → Option Value.Entries) :
    Key → Value.Entries → Option Value.Entries
  | [], entries => change entries
  | k :: rest, entries =>
      match entries.findText? k with
      | none => (alter intoLists change rest []).map fun inner => entries.put (.text k) (.map inner)
      | some (.map inner) =>
          (alter intoLists change rest inner).map fun inner => entries.put (.text k) (.map inner)
      | some (.list items) =>
          match intoLists, items.getLast? with
          | true, some (.map inner) =>
              (alter intoLists change rest inner).map fun inner =>
                entries.put (.text k) (.list (items.dropLast ++ [.map inner]))
          | _, _ => none
      | some _ => none

/-- Sets a name that is not set yet. -/
def define (name : String) (v : Value) (entries : Value.Entries) : Option Value.Entries :=
  if entries.hasKey (.text name) then none else some (entries.put (.text name) v)

/-- Adds an empty table to a list of tables, which may be new. -/
def appendTable (name : String) (entries : Value.Entries) : Option Value.Entries :=
  match entries.findText? name with
  | none => some (entries.put (.text name) (.list [.map []]))
  | some (.list items) => some (entries.put (.text name) (.list (items ++ [.map []])))
  | some _ => none

/-- A document so far.  Declared tables may not be opened again, frozen keys and what is under them
may not be changed, and the tables that dotted keys have made count as declared from the next header
on. -/
structure Draft where
  entries : Value.Entries := []
  declared : List Key := []
  frozen : List Key := []
  pending : List Key := []
  header : Key := []

namespace Draft

def isDeclared (draft : Draft) (key : Key) : Bool := draft.declared.contains key

def isFrozen (draft : Draft) (key : Key) : Bool := draft.frozen.any (·.isPrefixOf key)

def settlePending (draft : Draft) : Draft :=
  { draft with declared := draft.pending ++ draft.declared, pending := [] }

/-- Forgets the rules about a key and what lies under it. -/
def release (draft : Draft) (key : Key) : Draft :=
  { draft with
    declared := draft.declared.filter fun k => !key.isPrefixOf k
    frozen := draft.frozen.filter fun k => !key.isPrefixOf k }

def openTable (draft : Draft) (key : Key) : Option Draft := do
  let draft := draft.settlePending
  if draft.isDeclared key || draft.isFrozen key then none
  let entries ← alter true some key draft.entries
  return { draft with entries, declared := key :: draft.declared, header := key }

/-- Opens a new table at the end of a list of tables. -/
def openListed (draft : Draft) (key : Key) : Option Draft := do
  let draft := draft.settlePending
  if draft.isFrozen key then none
  let draft := draft.release key
  let entries ← alter true (appendTable (key.getLastD "")) key.dropLast draft.entries
  return { draft with entries, declared := key :: draft.declared, header := key }

/-- The ways to the tables that a dotted key passes, below the current header. -/
def passed (header key : Key) : List Key :=
  (List.range (key.length - 1)).map fun i => header ++ key.take (i + 1)

def isContainer : Value → Bool
  | .map _ => true
  | .list _ => true
  | _ => false

def assign (draft : Draft) (key : Key) (v : Value) : Option Draft := do
  let ways := passed draft.header key
  if ways.any draft.isDeclared then none
  let parent := draft.header ++ key.dropLast
  if draft.isFrozen parent then none
  let entries ← alter true (define (key.getLastD "") v) parent draft.entries
  let frozen := if isContainer v then (draft.header ++ key) :: draft.frozen else draft.frozen
  return { draft with entries, frozen, pending := draft.pending ++ ways }

end Draft

end MobileAudit.Toml
