namespace MobileAudit.Literal

/-! What expressions are made of, as far as it decides whether they are literals. -/

inductive Shape where
  | number (imaginary signed : Bool)
  /-- A real and an imaginary number. -/
  | sum
  | text
  | constant (name : String)
  | ellipsis
  | tuple (items : List Shape)
  /-- Entries with their keys; an entry without one stands for those of another mapping. -/
  | map (entries : List (Option Shape × Shape))
  | set (items : List Shape)
  /-- The call that makes an empty set. -/
  | emptySet
  | name (text : List Char)
  /-- Anything else, with the word for its kind. -/
  | other (kind : String)

namespace Shape

def kind : Shape → String
  | number _ signed => if signed then "expression" else "literal"
  | sum => "expression"
  | text => "literal"
  | constant word => word
  | ellipsis => "ellipsis"
  | tuple _ => "tuple"
  | map _ => "dict literal"
  | set _ => "set display"
  | emptySet => "function call"
  | name _ => "name"
  | other kind => kind

def withSign : Shape → Shape
  | number imaginary false => number imaginary true
  | _ => other "expression"

def joined (operator : String) : Shape → Shape → Shape
  | number false _, number true false =>
      if operator == "+" || operator == "-" then sum else other "expression"
  | _, _ => other "expression"

inductive Failure where
  /-- Something is no literal; what it is, if that can be said. -/
  | malformed (detail : Option String)
  /-- A key or member that may change. -/
  | unhashable (kind : String)

def Failure.message : Failure → String
  | malformed detail =>
      "malformed node or string" ++ ((detail.map (": " ++ ·)).getD " on line 1")
  | unhashable kind => "unhashable type: '" ++ kind ++ "'"

mutual

/-- Whether an expression can be a key or a member; the word for what cannot. -/
def hashable : Shape → Except Failure Unit
  | map _ => .error (.unhashable "dict")
  | set _ => .error (.unhashable "set")
  | emptySet => .error (.unhashable "set")
  | tuple items => allHashable items
  | _ => .ok ()

def allHashable : List Shape → Except Failure Unit
  | [] => .ok ()
  | item :: rest => do
      hashable item
      allHashable rest

end

mutual

def literal : Shape → Except Failure Unit
  | tuple items => allLiteral items
  | map entries => entriesLiteral entries
  | set items => membersLiteral items
  | name _ => .error (.malformed none)
  | other _ => .error (.malformed none)
  | _ => .ok ()

def allLiteral : List Shape → Except Failure Unit
  | [] => .ok ()
  | item :: rest => do
      literal item
      allLiteral rest

def membersLiteral : List Shape → Except Failure Unit
  | [] => .ok ()
  | item :: rest => do
      literal item
      hashable item
      membersLiteral rest

def entriesLiteral : List (Option Shape × Shape) → Except Failure Unit
  | [] => .ok ()
  | (none, _) :: _ => .error (.malformed (some "None"))
  | (some key, value) :: rest => do
      literal key
      literal value
      hashable key
      entriesLiteral rest

end

end Shape

end MobileAudit.Literal
