import MobileAudit.Yaml.Cursor
import MobileAudit.Yaml.Schema

namespace MobileAudit.Yaml

/-! Writing YAML in block style.  Text is left plain if that reads back as the same text, otherwise
put into single quotes, or into double quotes if it has characters that need an escape. -/

/-- The column after which a blank becomes a line break. -/
def lineWidth : Nat := 80

/-- By how many blanks a level is indented. -/
def levelWidth : Nat := 2

/-! Which forms a text may take. -/

/-- Characters that need no escape between double quotes, apart from the quote and the backslash. -/
def isOrdinary (c : Char) : Bool := 0x20 ≤ c.toNat && c.toNat ≤ 0x7e

/-- Signs that cannot begin a plain text. -/
def leadingSigns : List Char := "#,[]\x7b\x7d&*!|>'\"%@\x60".toList

/-- The beginning of a text that would be taken for something else. -/
def hasLeadingSign (text : List Char) : Bool :=
  "---".toList.isPrefixOf text || "...".toList.isPrefixOf text ||
    match text with
    | [] => false
    | c :: rest =>
        leadingSigns.contains c || (['?', ':', '-'].contains c && endsToken rest.head?)

/-- A colon before the end of a token or a number sign after it, from the second character on. -/
def hasInnerSign : List Char → Bool
  | [] => false
  | [_] => false
  | before :: c :: rest =>
      (c == ':' && endsToken rest.head?) || (c == '#' && endsToken (some before)) ||
        hasInnerSign (c :: rest)

def hasPair (first second : Char) : List Char → Bool
  | a :: b :: rest => (a == first && b == second) || hasPair first second (b :: rest)
  | _ => false

/-- Texts that single quotes can hold. -/
def fitsSingleQuotes (text : List Char) : Bool :=
  text.all (fun c => c == '\n' || isOrdinary c) &&
    !hasPair '\n' ' ' text && !hasPair ' ' '\n' text

/-- Texts that stand for themselves without quotes. -/
def fitsPlain (text : List Char) : Bool :=
  plainTag text == tagSpace ++ "str" && text.all isOrdinary && text.head? != some ' ' &&
    text.getLast? != some ' ' && !hasLeadingSign text && !hasInnerSign text

/-! How scalars are written. -/

/-- Output so far: the column that has been reached and the text. -/
structure Written where
  column : Nat
  text : List Char

namespace Written

def put (w : Written) (text : List Char) : Written :=
  ⟨w.column + text.length, w.text ++ text⟩

def newLine (w : Written) (indent : Nat) : Written :=
  ⟨indent, w.text ++ '\n' :: List.replicate indent ' '⟩

end Written

/-- Runs of blanks, of breaks and of other characters. -/
def runs (text : List Char) : List (List Char) :=
  text.splitBy fun a b => (a == ' ') == (b == ' ') && (a == '\n') == (b == '\n')

/-- Writes the runs of a plain text: a single blank beyond the width becomes a line break. -/
def plainRuns (indent : Nat) : List (List Char) → Written → Written
  | [], w => w
  | run :: rest, w =>
      plainRuns indent rest
        (if run == [' '] && lineWidth < w.column then w.newLine indent else w.put run)

/-- Writes the runs of a text between single quotes.  A break is written twice, and a blank at
either end of the text stays. -/
def singleRuns (indent : Nat) (isFirst : Bool) : List (List Char) → Written → Written
  | [], w => w
  | run :: rest, w =>
      let next :=
        if run.contains '\n' then
          ⟨indent, w.text ++ '\n' :: run ++ List.replicate indent ' '⟩
        else if run == [' '] && lineWidth < w.column && !isFirst && !rest.isEmpty then
          w.newLine indent
        else w.put (run.flatMap fun c => if c == '\'' then ['\'', '\''] else [c])
      singleRuns indent false rest next

/-- Letters that stand for characters after a backslash. -/
def escapeLetters : List (Char × Char) :=
  [('\x00', '0'), ('\x07', 'a'), ('\x08', 'b'), ('\t', 't'), ('\n', 'n'), ('\x0b', 'v'),
    ('\x0c', 'f'), ('\r', 'r'), ('\x1b', 'e'), ('"', '"'), ('\\', '\\'), ('\x85', 'N'),
    ('\xa0', '_'), ('\u2028', 'L'), ('\u2029', 'P')]

def escapeOf (c : Char) : List Char :=
  match escapeLetters.lookup c with
  | some letter => ['\\', letter]
  | none =>
      let digits := fun width => (Text.hexDigits width c.toNat).map Char.toUpper
      if c.toNat < 0x100 then '\\' :: 'x' :: digits 2
      else if c.toNat < 0x10000 then '\\' :: 'u' :: digits 4
      else '\\' :: 'U' :: digits 8

/-- A line break between double quotes: it is escaped, and so is a blank that would follow it. -/
def escapedBreak (indent : Nat) (next : Option Char) (w : Written) : Written :=
  let broken := (w.put ['\\']).newLine indent
  if next == some ' ' then broken.put ['\\'] else broken

/-- Writes a text between double quotes.  Beyond the width a line ends before a blank and next to an
escape, but not at either end of the text. -/
def doubleChars (indent : Nat) (isFirst afterEscape : Bool) : List Char → Written → Written
  | [], w => w
  | c :: rest, w =>
      let inside := !isFirst && !rest.isEmpty
      if c == '"' || c == '\\' || !isOrdinary c then
        let w := w.put (escapeOf c)
        let w := if inside && lineWidth + 1 < w.column then escapedBreak indent rest.head? w else w
        doubleChars indent false true rest w
      else
        let breaks := inside && (c == ' ' || afterEscape) && lineWidth < w.column
        let w := if breaks then escapedBreak indent (some c) w else w
        doubleChars indent false false rest (w.put [c])

/-- Writes a text in the simplest form it fits. -/
def writeScalar (indent : Nat) (text : List Char) (w : Written) : Written :=
  if fitsPlain text then plainRuns indent (runs text) w
  else if fitsSingleQuotes text then
    (singleRuns indent true (runs text) (w.put ['\''])).put ['\'']
  else (doubleChars indent true false text (w.put ['"'])).put ['"']

/-! How documents are written. -/

inductive Holder where
  | document
  | key
  | item
deriving DecidableEq

namespace Holder

def lead : Holder → List Char
  | document => []
  | _ => [' ']

/-- The first line of a nested mapping or list: below a key, next to a dash. -/
def enter (holder : Holder) (indent : Nat) (w : Written) : Written :=
  match holder with
  | document => w
  | key => w.newLine indent
  | item => w.put [' ']

end Holder

mutual

/-- Writes a value.  Lists below a key stand at the level of the key. -/
def writeValue (holder : Holder) (indent : Nat) : Value → Written → Written
  | .map entries, w =>
      if entries.isEmpty then w.put (holder.lead ++ ['\x7b', '\x7d'])
      else
        writeEntries holder (if holder == .document then indent else indent + levelWidth) entries w
  | .list items, w =>
      if items.isEmpty then w.put (holder.lead ++ ['[', ']'])
      else writeItems holder (if holder == .item then indent + levelWidth else indent) items w
  | .text s, w => writeScalar (indent + levelWidth) s.toList (w.put holder.lead)
  | .bool b, w => w.put (holder.lead ++ (if b then "true" else "false").toList)
  | .int n, w => w.put (holder.lead ++ (toString n).toList)
  | _, w => w.put (holder.lead ++ "null".toList)

/-- Writes the entries of a mapping, all but the first on lines of their own. -/
def writeEntries (holder : Holder) (indent : Nat) : List (Value × Value) → Written → Written
  | [], w => w
  | (k, v) :: rest, w =>
      let named := (writeScalar indent k.plain.toList (holder.enter indent w)).put [':']
      writeEntries .key indent rest (writeValue .key indent v named)

/-- Writes the items of a list, all but the first on lines of their own. -/
def writeItems (holder : Holder) (indent : Nat) : List Value → Written → Written
  | [], w => w
  | v :: rest, w =>
      let marked := (holder.enter indent w).put ['-']
      writeItems .key indent rest (writeValue .item indent v marked)

end

/-- A document that holds a value made of mappings with text keys, lists, texts, whole numbers and
truth values. -/
def write (value : Value) : String :=
  String.ofList ((writeValue .document 0 value ⟨0, []⟩).put ['\n']).text

end MobileAudit.Yaml
