import MobileAudit.Document.Value

namespace MobileAudit.Json

/-! Writing JSON. -/

/-- How a document is laid out: by how many blanks a level is indented, on one line if `none`, and
whether characters outside ASCII are escaped. -/
structure Style where
  indent : Option Nat
  asciiOnly : Bool

def Style.document : Style := ⟨some 2, false⟩

def Style.settings : Style := ⟨some 2, true⟩

def Style.oneLine : Style := ⟨none, false⟩

def codeEscape (code : Nat) : List Char :=
  '\\' :: 'u' :: Text.hexDigits 4 code

def escapeWide (code : Nat) : List Char :=
  if code < 0x10000 then codeEscape code
  else
    let offset := code - 0x10000
    codeEscape (0xd800 + offset / 0x400) ++ codeEscape (0xdc00 + offset % 0x400)

def writeChar (asciiOnly : Bool) (c : Char) : List Char :=
  if c == '"' then ['\\', '"']
  else if c == '\\' then ['\\', '\\']
  else if c == '\n' then ['\\', 'n']
  else if c == '\r' then ['\\', 'r']
  else if c == '\t' then ['\\', 't']
  else if c == '\x08' then ['\\', 'b']
  else if c == '\x0c' then ['\\', 'f']
  else if c.toNat < 0x20 then codeEscape c.toNat
  else if asciiOnly && 0x7f ≤ c.toNat then escapeWide c.toNat
  else [c]

def writeText (asciiOnly : Bool) (text : String) : List Char :=
  '"' :: text.toList.flatMap (writeChar asciiOnly) ++ ['"']

/-- What separates and surrounds the parts of a list or mapping at a level. -/
def Style.breakAt (style : Style) (level : Nat) : List Char :=
  match style.indent with
  | some width => '\n' :: List.replicate (width * level) ' '
  | none => []

def Style.comma (style : Style) (level : Nat) : List Char :=
  match style.indent with
  | some _ => ',' :: style.breakAt level
  | none => [',', ' ']

def enclosed (style : Style) (level : Nat) (opening closing : Char) (parts : List (List Char)) :
    List Char :=
  match parts with
  | [] => [opening, closing]
  | parts =>
      opening :: style.breakAt (level + 1) ++
        (style.comma (level + 1)).intercalate parts ++ style.breakAt level ++ [closing]

mutual

def writeValue (style : Style) (level : Nat) : Value → List Char
  | .null => "null".toList
  | .bool b => (if b then "true" else "false").toList
  | .int n => (toString n).toList
  | .float x => (Number.floatText x).toList
  | .text s => writeText style.asciiOnly s
  | .list items => enclosed style level '[' ']' (writeItems style (level + 1) items)
  | .tuple items => enclosed style level '[' ']' (writeItems style (level + 1) items)
  | .set items => enclosed style level '[' ']' (writeItems style (level + 1) items)
  | .map entries => enclosed style level '\x7b' '\x7d' (writeEntries style (level + 1) entries)
  | .date _ => "null".toList
  | .time _ => "null".toList
  | .moment _ => "null".toList
  | .bytes _ => "null".toList
  | .loop _ v => writeValue style level v
  | .back _ => "null".toList

def writeItems (style : Style) (level : Nat) : List Value → List (List Char)
  | [] => []
  | v :: rest => writeValue style level v :: writeItems style level rest

def writeEntries (style : Style) (level : Nat) :
    List (Value × Value) → List (List Char)
  | [] => []
  | (k, v) :: rest =>
      (writeKey style k ++ ':' :: ' ' :: writeValue style level v) ::
        writeEntries style level rest

/-- Keys are texts. -/
def writeKey (style : Style) : Value → List Char
  | .text s => writeText style.asciiOnly s
  | _ => ['"', '"']

end

def write (style : Style) (value : Value) : String :=
  String.ofList (writeValue style 0 value)

end MobileAudit.Json
