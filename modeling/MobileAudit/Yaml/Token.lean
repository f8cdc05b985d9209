import MobileAudit.Text.Utf8
import MobileAudit.Yaml.Block
import MobileAudit.Yaml.Plain
import MobileAudit.Yaml.Quoted

namespace MobileAudit.Yaml

/-! The tokens of a text.  Indentation opens and closes blocks, and the key of a mapping is
recognized only by the colon after it, so the mark of a key may be put in front of tokens that were
read before. -/

inductive Token where
  | versionDirective (major : Nat)
  | tagDirective (handle start : String)
  | otherDirective
  | documentStart
  | documentEnd
  | blockSequenceStart
  | blockMappingStart
  | blockEnd
  | flowSequenceStart
  | flowSequenceEnd
  | flowMappingStart
  | flowMappingEnd
  | blockEntry
  | flowEntry
  | key
  | value
  | alias (name : String)
  | anchor (name : String)
  /-- A tag with its handle, or without one if it is written out. -/
  | tag (handle : Option String) (suffix : String)
  | scalar (text : String) (plain : Bool)
deriving DecidableEq

/-- A place where the key of a mapping may have started. -/
structure KeyStart where
  tokenCount : Nat
  required : Bool
  index : Nat
  line : Nat
  column : Nat

structure Lexer where
  cursor : Cursor
  tokens : Array Token := #[]
  /-- The number of brackets that are open. -/
  flow : Nat := 0
  indent : Int := -1
  outerIndents : List Int := []
  keyAllowed : Bool := true
  /-- Possible starts of keys by number of open brackets. -/
  keyStarts : List (Nat × KeyStart) := []

namespace Lexer

def inFlow (lexer : Lexer) : Bool := lexer.flow != 0

def push (lexer : Lexer) (token : Token) : Lexer :=
  { lexer with tokens := lexer.tokens.push token }

def insertAt (lexer : Lexer) (place : Nat) (token : Token) : Lexer :=
  { lexer with tokens := lexer.tokens.insertIdxIfInBounds place token }

def moveTo (lexer : Lexer) (cursor : Cursor) : Lexer := { lexer with cursor }

def advance (lexer : Lexer) (count : Nat) : Lexer := lexer.moveTo (.skip count lexer.cursor)

/-- Skips what separates tokens.  Outside brackets a key may start on a new line. -/
def skipBlanks : Nat → Lexer → Lexer
  | 0, lexer => lexer
  | fuel + 1, lexer =>
      match lexer.cursor.skipComment.lineBreak with
      | ([], c) => lexer.moveTo c
      | (_, c) =>
          skipBlanks fuel
            { lexer with cursor := c, keyAllowed := lexer.keyAllowed || !lexer.inFlow }

/-- Forgets starts of keys that lie too far back; a required one must not be forgotten. -/
def dropStaleKeys (lexer : Lexer) : Option Lexer :=
  let isStale := fun (k : KeyStart) =>
    k.line != lexer.cursor.line || lexer.cursor.index - k.index > 1024
  if lexer.keyStarts.any fun (_, k) => isStale k && k.required then none
  else some { lexer with keyStarts := lexer.keyStarts.filter fun (_, k) => !isStale k }

def withoutKey (lexer : Lexer) : Lexer :=
  { lexer with keyStarts := lexer.keyStarts.filter fun (flow, _) => flow != lexer.flow }

/-- Forgets the start of a key at the current depth, unless a key has to be there. -/
def dropKey (lexer : Lexer) : Option Lexer :=
  match lexer.keyStarts.lookup lexer.flow with
  | some k =>
      if k.required then none
      else some lexer.withoutKey
  | none => some lexer

/-- Notes that a key may start here. -/
def saveKey (lexer : Lexer) : Option Lexer :=
  if !lexer.keyAllowed then some lexer
  else do
    let cursor := lexer.cursor
    let start : KeyStart :=
      { tokenCount := lexer.tokens.size
        required := !lexer.inFlow && lexer.indent == cursor.column
        index := cursor.index
        line := cursor.line
        column := cursor.column }
    let lexer ← lexer.dropKey
    return { lexer with keyStarts := (lexer.flow, start) :: lexer.keyStarts }

/-- Closes the blocks that are indented deeper than a column. -/
def closeBlocks (column : Int) : List Int → Lexer → Lexer
  | [], lexer => lexer
  | outer :: rest, lexer =>
      if column < lexer.indent then
        closeBlocks column rest
          { lexer.push .blockEnd with indent := outer, outerIndents := rest }
      else lexer

def unwind (lexer : Lexer) (column : Int) : Lexer :=
  if lexer.inFlow then lexer else closeBlocks column lexer.outerIndents lexer

/-- Opens a block at a column if it is deeper than the current one. -/
def openBlock (lexer : Lexer) (column : Int) : Option Lexer :=
  if lexer.indent < column then
    some { lexer with indent := column, outerIndents := lexer.indent :: lexer.outerIndents }
  else none

/-! Names and tags. -/

def isNameChar (c : Char) : Bool := Text.isAsciiAlnum c || c == '-' || c == '_'

def isUriChar (c : Char) : Bool :=
  Text.isAsciiAlnum c || "-;/?:@&=+$,_.!~*'()[]%".toList.contains c

/-- Bytes written as percent signs with two digits. -/
def percentBytes : Nat → Cursor → List UInt8 → Option (List UInt8 × Cursor)
  | 0, _, _ => none
  | fuel + 1, c, bytes =>
      match c.rest with
      | '%' :: a :: b :: _ =>
          match Json.hexValue? a, Json.hexValue? b with
          | some a, some b =>
              percentBytes fuel (.skip 3 c) (bytes ++ [UInt8.ofNat (a * 16 + b)])
          | _, _ => none
      | '%' :: _ => none
      | _ => some (bytes, c)

def uriOnto : Nat → Cursor → List Char → Option (List Char × Cursor)
  | 0, _, _ => none
  | fuel + 1, c, text =>
      match c.peek? with
      | some '%' =>
          match percentBytes (c.left + 1) c [] with
          | some (bytes, c) =>
              match Text.decode? ⟨bytes.toArray⟩ with
              | some piece => uriOnto fuel c (text ++ piece.toList)
              | none => none
          | none => none
      | some ch => if isUriChar ch then uriOnto fuel c.advance (text ++ [ch]) else some (text, c)
      | none => some (text, c)

/-- A part of a tag, which must not be empty. -/
def uri (c : Cursor) : Option (String × Cursor) := do
  guard (c.peek?.any isUriChar)
  let (text, c) ← uriOnto (c.left + 1) c []
  return (String.ofList text, c)

/-- A handle of tags: `!`, `!!` or a name between the two. -/
def tagHandle (c : Cursor) : Option (String × Cursor) := do
  guard (c.peek? == some '!')
  let after := c.advance
  if after.peek? == some ' ' then return ("!", after)
  let (name, after) := after.takeWhile isNameChar
  guard (after.peek? == some '!')
  return (String.ofList ('!' :: name ++ ['!']), after.advance)

def tagToken (c : Cursor) : Option (Token × Cursor) := do
  let (token, c) ←
    match c.rest[1]? with
    | some '<' => do
        let (suffix, c) ← uri (.skip 2 c)
        guard (c.peek? == some '>')
        pure (Token.tag none suffix, c.advance)
    | next =>
        if endsToken next then pure (Token.tag none "!", c.advance)
        else do
          let word := (c.rest.drop 1).takeWhile fun ch => !endsWord (some ch)
          let (handle, c) ← if word.contains '!' then tagHandle c else pure ("!", c.advance)
          let (suffix, c) ← uri c
          pure (Token.tag (some handle) suffix, c)
  guard (endsWord c.peek?)
  return (token, c)

/-- The name after the mark of an anchor or alias. -/
def anchorName (c : Cursor) : Option (String × Cursor) := do
  let (name, c) := c.advance.takeWhile isNameChar
  guard (!name.isEmpty)
  guard (endsToken c.peek? || c.peek?.any "?:,]\x7d%@`".toList.contains)
  return (String.ofList name, c)

/-! Directives. -/

def versionNumber (c : Cursor) : Option (Nat × Cursor) := do
  let (digits, c) := c.takeWhile Text.isAsciiDigit
  guard (!digits.isEmpty)
  return (Json.digitsValue digits, c)

def directiveToken (c : Cursor) : Option (Token × Cursor) := do
  let (name, c) := c.advance.takeWhile isNameChar
  guard (!name.isEmpty && endsWord c.peek?)
  let (token, c) ←
    if name == "YAML".toList then do
      let (major, c) ← versionNumber (c.skipWhile (· == ' '))
      guard (c.peek? == some '.')
      let (_, c) ← versionNumber c.advance
      guard (endsWord c.peek?)
      pure (Token.versionDirective major, c)
    else if name == "TAG".toList then do
      let (handle, c) ← tagHandle (c.skipWhile (· == ' '))
      guard (c.peek? == some ' ')
      let (start, c) ← uri (c.skipWhile (· == ' '))
      guard (endsWord c.peek?)
      pure (Token.tagDirective handle start, c)
    else pure (Token.otherDirective, c.skipWhile (!isBreak ·))
  return (token, ← c.restOfLine?)

/-! Reading one token. -/

/-- A token that ends every open block. -/
def topLevel (lexer : Lexer) (token : Token) (cursor : Cursor) : Option Lexer := do
  let lexer ← (lexer.unwind (-1)).dropKey
  return { lexer.push token with cursor, keyAllowed := false }

def openBracket (lexer : Lexer) (token : Token) : Option Lexer := do
  let lexer ← lexer.saveKey
  return { (lexer.push token).advance 1 with flow := lexer.flow + 1, keyAllowed := true }

def closeBracket (lexer : Lexer) (token : Token) : Option Lexer := do
  guard lexer.inFlow
  let lexer ← lexer.dropKey
  return { (lexer.push token).advance 1 with flow := lexer.flow - 1, keyAllowed := false }

/-- Opens a block outside brackets, where it is allowed. -/
def startBlock (lexer : Lexer) (token : Token) : Option Lexer :=
  if lexer.inFlow then some lexer
  else if !lexer.keyAllowed then none
  else
    match lexer.openBlock lexer.cursor.column with
    | some opened => some (opened.push token)
    | none => some lexer

def blockEntryToken (lexer : Lexer) : Option Lexer := do
  let lexer ← lexer.startBlock .blockSequenceStart
  let lexer ← { lexer with keyAllowed := true }.dropKey
  return (lexer.push .blockEntry).advance 1

def keyToken (lexer : Lexer) : Option Lexer := do
  let lexer ← lexer.startBlock .blockMappingStart
  let lexer ← { lexer with keyAllowed := !lexer.inFlow }.dropKey
  return (lexer.push .key).advance 1

def flowEntryToken (lexer : Lexer) : Option Lexer := do
  let lexer ← { lexer with keyAllowed := true }.dropKey
  return (lexer.push .flowEntry).advance 1

/-- The mark of a value.  The tokens since the last start of a key are its key. -/
def valueToken (lexer : Lexer) : Option Lexer := do
  match lexer.keyStarts.lookup lexer.flow with
  | some k =>
      let lexer := lexer.withoutKey
      let lexer := lexer.insertAt k.tokenCount .key
      let lexer :=
        if lexer.inFlow then lexer
        else match lexer.openBlock k.column with
          | some opened => opened.insertAt k.tokenCount .blockMappingStart
          | none => lexer
      return ({ lexer with keyAllowed := false }.push .value).advance 1
  | none =>
      let lexer ← lexer.startBlock .blockMappingStart
      let lexer ← { lexer with keyAllowed := !lexer.inFlow }.dropKey
      return (lexer.push .value).advance 1

def keyLike (lexer : Lexer) (read : Cursor → Option (Token × Cursor)) : Option Lexer := do
  let lexer ← lexer.saveKey
  let (token, cursor) ← read lexer.cursor
  return { lexer.push token with cursor, keyAllowed := false }

def quotedToken (double : Bool) (c : Cursor) : Option (Token × Cursor) :=
  (quotedScalar double c).map fun (text, c) => (.scalar (String.ofList text) false, c)

def blockToken (lexer : Lexer) (folded : Bool) : Option Lexer := do
  let lexer ← { lexer with keyAllowed := true }.dropKey
  let (text, cursor) ← blockScalar folded lexer.indent lexer.cursor
  return { lexer.push (.scalar (String.ofList text) false) with cursor }

def plainToken (lexer : Lexer) : Option Lexer := do
  let lexer ← lexer.saveKey
  let scalar := plainScalar lexer.inFlow lexer.indent lexer.cursor
  return { lexer.push (.scalar (String.ofList scalar.text) true) with
    cursor := scalar.cursor, keyAllowed := scalar.crossedLine }

def indicators : List Char := "-?:,[]\x7b\x7d#&*!|>'\"%@`".toList

def startsPlain (lexer : Lexer) (c : Char) (next : Option Char) : Bool :=
  !(endsToken (some c) || indicators.contains c) ||
    (!endsToken next && (c == '-' || (!lexer.inFlow && (c == '?' || c == ':'))))

def readToken (lexer : Lexer) (c : Char) (next : Option Char) : Option Lexer :=
  let cursor := lexer.cursor
  let atLineStart := cursor.column == 0
  let alone := endsToken next
  if c == '%' && atLineStart then do
    let (token, cursor) ← directiveToken cursor
    lexer.topLevel token cursor
  else if atLineStart && atMarker cursor.rest then
    lexer.topLevel (if c == '-' then .documentStart else .documentEnd) (.skip 3 cursor)
  else if c == '[' then lexer.openBracket .flowSequenceStart
  else if c == '\x7b' then lexer.openBracket .flowMappingStart
  else if c == ']' then lexer.closeBracket .flowSequenceEnd
  else if c == '\x7d' then lexer.closeBracket .flowMappingEnd
  else if c == ',' then lexer.flowEntryToken
  else if c == '-' && alone then lexer.blockEntryToken
  else if c == '?' && (lexer.inFlow || alone) then lexer.keyToken
  else if c == ':' && (lexer.inFlow || alone) then lexer.valueToken
  else if c == '*' then lexer.keyLike fun c => (anchorName c).map fun (name, c) => (.alias name, c)
  else if c == '&' then lexer.keyLike fun c => (anchorName c).map fun (name, c) => (.anchor name, c)
  else if c == '!' then lexer.keyLike tagToken
  else if c == '|' && !lexer.inFlow then lexer.blockToken false
  else if c == '>' && !lexer.inFlow then lexer.blockToken true
  else if c == '\'' then lexer.keyLike (quotedToken false)
  else if c == '"' then lexer.keyLike (quotedToken true)
  else if lexer.startsPlain c next then lexer.plainToken
  else none

/-- Reads all tokens; nothing if the text has none at some place. -/
def readAll : Nat → Lexer → Option (Array Token)
  | 0, _ => none
  | fuel + 1, lexer => do
      let lexer ← (skipBlanks (lexer.cursor.left + 1) lexer).dropStaleKeys
      let lexer := lexer.unwind lexer.cursor.column
      match lexer.cursor.rest with
      | [] =>
          let lexer ← (lexer.unwind (-1)).dropKey
          return lexer.tokens
      | c :: rest => readAll fuel (← lexer.readToken c rest.head?)

end Lexer

def isAllowed (c : Char) : Bool :=
  let n := c.toNat
  n == 0x09 || n == 0x0a || n == 0x0d || (0x20 ≤ n && n ≤ 0x7e) || n == 0x85 ||
    (0xa0 ≤ n && n ≤ 0xfffd) || 0x10000 ≤ n

/-- The tokens of a text, without a byte order mark at its start. -/
def tokens? (text : List Char) : Option (List Token) :=
  if !text.all isAllowed then none
  else
    let start : Cursor := { rest := text }
    let start := if text.head? == some '\uFEFF' then start.advance else start
    (Lexer.readAll (text.length + 2) { cursor := start }).map Array.toList

end MobileAudit.Yaml
