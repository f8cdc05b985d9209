import MobileAudit.Json.Read
import MobileAudit.Text.Class

namespace MobileAudit.Toml

/-! Strings: in double quotes with escapes or in single quotes as they are, and either of them over
several lines between three quotes. -/

def isBlank (c : Char) : Bool := c == ' ' || c == '\t'

def isGap (c : Char) : Bool := isBlank c || c == '\n'

/-- A control character, which no text may hold. -/
def isControl (c : Char) : Bool := (c.toNat < 32 || c.toNat == 127) && c != '\t'

def isIllegal (severalLines : Bool) (c : Char) : Bool :=
  isControl c && !(severalLines && c == '\n')

abbrev Taken (α : Type) := Option (α × List Char)

/-- Takes a text up to an end mark, of whose characters none may be a control character. -/
def literalOnto (severalLines : Bool) (close : List Char) (read : List Char) :
    List Char → Taken (List Char)
  | [] => none
  | c :: rest =>
      if close.isPrefixOf (c :: rest) then some (read.reverse, (c :: rest).drop close.length)
      else if isIllegal severalLines c then none
      else literalOnto severalLines close (c :: read) rest

def simpleEscapes : List (Char × Char) :=
  [('b', '\x08'), ('t', '\t'), ('n', '\n'), ('f', '\x0c'), ('r', '\r'), ('"', '"'), ('\\', '\\')]

def charOfCode? (count : Nat) (text : List Char) : Option (Char × List Char) := do
  let digits := text.take count
  if digits.length != count then none
  let values ← digits.mapM Json.hexValue?
  let code := values.foldl (fun n d => n * 16 + d) 0
  if code.isValidChar then some (Char.ofNat code, text.drop count) else none

/-- A line that ends with a backslash goes on with the next character that is no gap. -/
def joinLines (text : List Char) : Option (List Char) :=
  match text.dropWhile isBlank with
  | [] => some []
  | '\n' :: rest => some (rest.dropWhile isGap)
  | _ => none

def escape (severalLines : Bool) : List Char → Taken (List Char)
  | [] => none
  | c :: rest =>
      if severalLines && isGap c then (joinLines (c :: rest)).map fun rest => ([], rest)
      else if c == 'u' then (charOfCode? 4 rest).map fun (c, rest) => ([c], rest)
      else if c == 'U' then (charOfCode? 8 rest).map fun (c, rest) => ([c], rest)
      else (simpleEscapes.lookup c).map fun meaning => ([meaning], rest)

/-- Reads onto the text read so far, last first, up to the closing quotes. -/
def basicOnto (severalLines : Bool) : Nat → List Char → List Char → Taken (List Char)
  | 0, _, _ => none
  | fuel + 1, read, text =>
      match text with
      | [] => none
      | '"' :: rest =>
          if !severalLines then some (read.reverse, rest)
          else if ['"', '"'].isPrefixOf rest then some (read.reverse, rest.drop 2)
          else basicOnto severalLines fuel ('"' :: read) rest
      | '\\' :: rest =>
          match escape severalLines rest with
          | some (piece, rest) => basicOnto severalLines fuel (piece.reverse ++ read) rest
          | none => none
      | c :: rest =>
          if isIllegal severalLines c then none else basicOnto severalLines fuel (c :: read) rest

def basicText (severalLines : Bool) (text : List Char) : Taken (List Char) :=
  basicOnto severalLines (text.length + 1) [] text

/-- Up to two quotes before the closing ones belong to the text. -/
def withExtraQuotes (quote : Char) (read : List Char) (rest : List Char) : List Char × List Char :=
  let extra := (rest.takeWhile (· == quote)).take 2
  (read ++ extra, rest.drop extra.length)

/-- A text after three opening quotes; a line break right after them is not part of it. -/
def longText (quote : Char) (text : List Char) : Taken (List Char) :=
  let text := if text.head? == some '\n' then text.drop 1 else text
  let taken := if quote == '"' then basicText true text
    else literalOnto true [quote, quote, quote] [] text
  taken.map fun (read, rest) => withExtraQuotes quote read rest

/-- A text of one line after its opening quote. -/
def shortText (quote : Char) (text : List Char) : Taken (List Char) :=
  if quote == '"' then basicText false text else literalOnto false [quote] [] text

end MobileAudit.Toml
