import MobileAudit.Toml.Scalar
import MobileAudit.Toml.Table

namespace MobileAudit.Toml

/-! Reading whole documents: lines that set keys or open tables. -/

def isBareKey (c : Char) : Bool := Text.isAsciiAlnum c || c == '-' || c == '_'

/-- A comment, without the end of its line. -/
def skipComment : List Char → Option (List Char)
  | '#' :: rest =>
      if (rest.takeWhile (· != '\n')).any isControl then none else some (rest.dropWhile (· != '\n'))
  | text => some text

def keyPart : List Char → Taken String
  | '\'' :: rest => (shortText '\'' rest).map fun (cs, rest) => (String.ofList cs, rest)
  | '"' :: rest => (shortText '"' rest).map fun (cs, rest) => (String.ofList cs, rest)
  | text =>
      let name := text.takeWhile isBareKey
      if name.isEmpty then none else some (String.ofList name, text.dropWhile isBareKey)

/-- A key of parts that are joined with points, and the blanks after it. -/
def keyOnto : Nat → Key → List Char → Option (Key × List Char)
  | 0, _, _ => none
  | fuel + 1, read, text => do
      let (part, rest) ← keyPart text
      match rest.dropWhile isBlank with
      | '.' :: rest => keyOnto fuel (read ++ [part]) (rest.dropWhile isBlank)
      | rest => return (read ++ [part], rest)

def dottedKey (text : List Char) : Taken Key := keyOnto (text.length + 1) [] text

/-- Blanks, line ends and comments between the items of a list. -/
def skipGaps : Nat → List Char → Option (List Char)
  | 0, text => some text
  | fuel + 1, text =>
      match text.dropWhile isGap with
      | '#' :: rest => (skipComment ('#' :: rest)).bind (skipGaps fuel)
      | rest => some rest

def maxDepth : Nat := 480

/-- An inline table so far; containers in it are frozen once the next key follows. -/
structure InlineTable where
  entries : Value.Entries := []
  frozen : List Key := []

def InlineTable.assign (table : InlineTable) (key : Key) (v : Value) : Option InlineTable := do
  if table.frozen.any (·.isPrefixOf key) then none
  let entries ← alter false (define (key.getLastD "") v) key.dropLast table.entries
  return { entries, frozen := if Draft.isContainer v then key :: table.frozen else table.frozen }

mutual

/-- A value that may nest `depth` deep; `fuel` bounds the number of parts. -/
def readValue (fuel depth : Nat) (text : List Char) : Taken Value :=
  match fuel with
  | 0 => none
  | fuel + 1 =>
      match text with
      | '"' :: '"' :: '"' :: rest => quoted (longText '"' rest)
      | '"' :: rest => quoted (shortText '"' rest)
      | '\'' :: '\'' :: '\'' :: rest => quoted (longText '\'' rest)
      | '\'' :: rest => quoted (shortText '\'' rest)
      | 't' :: 'r' :: 'u' :: 'e' :: rest => some (.bool true, rest)
      | 'f' :: 'a' :: 'l' :: 's' :: 'e' :: rest => some (.bool false, rest)
      | '[' :: rest =>
          match depth with
          | 0 => none
          | depth + 1 =>
              (readItems fuel depth [] rest).map fun (items, rest) => (.list items, rest)
      | '\x7b' :: rest =>
          match depth, rest.dropWhile isBlank with
          | 0, _ => none
          | _, '\x7d' :: rest => some (.map [], rest)
          | depth + 1, rest =>
              (readInline fuel depth {} rest).map fun (entries, rest) => (.map entries, rest)
      | _ => scalar? text
where
  quoted (taken : Taken (List Char)) : Taken Value :=
    taken.map fun (cs, rest) => (.text (String.ofList cs), rest)

/-- The items of a list onto those read, last first. -/
def readItems (fuel depth : Nat) (items : List Value) (text : List Char) : Taken (List Value) :=
  match fuel with
  | 0 => none
  | fuel + 1 =>
      match skipGaps (text.length + 1) text with
      | none => none
      | some (']' :: rest) => some (items.reverse, rest)
      | some rest =>
          match readValue fuel depth rest with
          | none => none
          | some (item, rest) =>
              match skipGaps (rest.length + 1) rest with
              | some (']' :: rest) => some ((item :: items).reverse, rest)
              | some (',' :: rest) => readItems fuel depth (item :: items) rest
              | _ => none

/-- The pairs of an inline table, which is not empty. -/
def readInline (fuel depth : Nat) (table : InlineTable) (text : List Char) :
    Taken Value.Entries :=
  match fuel with
  | 0 => none
  | fuel + 1 =>
      match dottedKey text with
      | some (key, '=' :: rest) =>
          match readValue fuel depth (rest.dropWhile isBlank) with
          | none => none
          | some (v, rest) =>
              match table.assign key v with
              | none => none
              | some table =>
                  match rest.dropWhile isBlank with
                  | '\x7d' :: rest => some (table.entries, rest)
                  | ',' :: rest => readInline fuel depth table (rest.dropWhile isBlank)
                  | _ => none
      | _ => none

end

def readHeader (draft : Draft) : List Char → Option (Draft × List Char)
  | '[' :: '[' :: rest =>
      match dottedKey (rest.dropWhile isBlank) with
      | some (key, ']' :: ']' :: rest) => (draft.openListed key).map fun draft => (draft, rest)
      | _ => none
  | '[' :: rest =>
      match dottedKey (rest.dropWhile isBlank) with
      | some (key, ']' :: rest) => (draft.openTable key).map fun draft => (draft, rest)
      | _ => none
  | _ => none

def readPair (draft : Draft) (text : List Char) : Option (Draft × List Char) :=
  match dottedKey text with
  | some (key, '=' :: rest) =>
      let rest := rest.dropWhile isBlank
      match readValue (2 * rest.length + 2) maxDepth rest with
      | some (v, rest) => (draft.assign key v).map fun draft => (draft, rest)
      | none => none
  | _ => none

def readStatement (draft : Draft) (text : List Char) : Option (Draft × List Char) :=
  match text with
  | [] => some (draft, [])
  | c :: _ =>
      if c == '\n' || c == '#' then some (draft, text)
      else if c == '[' then readHeader draft text
      else readPair draft text

def readLines : Nat → Draft → List Char → Option Draft
  | 0, _, _ => none
  | fuel + 1, draft, text => do
      let (draft, rest) ← readStatement draft (text.dropWhile isBlank)
      match ← skipComment (rest.dropWhile isBlank) with
      | [] => return draft
      | '\n' :: rest => readLines fuel draft rest
      | _ => none

def joinReturns : List Char → List Char
  | '\r' :: '\n' :: rest => '\n' :: joinReturns rest
  | c :: rest => c :: joinReturns rest
  | [] => []

/-- The mapping of a text, nothing if the text is malformed. -/
def read? (text : String) : Option Value :=
  let text := joinReturns text.toList
  (readLines (text.length + 2) {} text).map fun draft => .map draft.entries

end MobileAudit.Toml
