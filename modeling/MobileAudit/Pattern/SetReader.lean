import MobileAudit.Pattern.Escape

namespace MobileAudit.Pattern

/-! Reading sets of characters: items and ranges in brackets, with a complement sign and escapes. -/

/-- One item, an escape or a character. -/
def readSymbol : List Char → Except Failure (Symbol × List Char)
  | [] => .error .malformed
  | '\\' :: 'b' :: rest => .ok (.code 8, rest)
  | '\\' :: c :: rest => if isOctalDigit c then readOctal c rest else readCommonEscape c rest
  | '\\' :: [] => .error .malformed
  | c :: rest => .ok (.code c.toNat, rest)

/-- Reads items up to the closing bracket, which is an ordinary character in the first place. -/
def readItems (ascii : Bool) :
    Nat → List CharItem → List Char → Except Failure (List CharItem × List Char)
  | 0, _, _ => .error .malformed
  | fuel + 1, items, text =>
      match text, items.isEmpty with
      | ']' :: rest, false => .ok (items, rest)
      | _, _ => do
          let (first, rest) ← readSymbol text
          match rest with
          | '-' :: ']' :: rest => .ok (items ++ first.items ascii ++ [.one '-'], rest)
          | '-' :: rest =>
              let (last, rest) ← readSymbol rest
              match first, last with
              | .code low, .code high =>
                  if low ≤ high then readItems ascii fuel (items ++ [rangeItem low high]) rest
                  else .error .malformed
              | _, _ => .error .malformed
          | rest => readItems ascii fuel (items ++ first.items ascii) rest

/-- Reads a set after its opening bracket; what follows the closing bracket remains. -/
def readSet (ascii : Bool) (text : List Char) : Except Failure (CharSet × List Char) :=
  match text with
  | '^' :: rest =>
      (readItems ascii (rest.length + 1) [] rest).map fun (items, rest) =>
        ({ items, complement := true }, rest)
  | _ =>
      (readItems ascii (text.length + 1) [] text).map fun (items, rest) => ({ items }, rest)

end MobileAudit.Pattern
