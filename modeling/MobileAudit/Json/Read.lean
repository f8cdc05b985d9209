import MobileAudit.Document.Value
import MobileAudit.Json.Failure

namespace MobileAudit.Json

/-! Reading JSON.  Beside the standard's values `NaN` and the infinities are read, integers have at
most 4300 digits, and of repeated keys the last value counts.

Texts are taken to be free of surrogates that stand alone: a text here is a sequence of characters,
and a surrogate is none.  Documents whose escapes spell one are left out.  They are read all the
same, with the replacement character in its place, but no statement about texts is meant of them. -/

abbrev Outcome (α : Type) := Except Failure (α × List Char)

def fail {α : Type} (cause : Cause) (rest : List Char) : Outcome α :=
  .error ⟨cause, rest.length⟩

def isBlank (c : Char) : Bool :=
  c == ' ' || c == '\t' || c == '\n' || c == '\r'

def skipBlanks (text : List Char) : List Char :=
  text.dropWhile isBlank

def hexValue? (c : Char) : Option Nat :=
  if '0' ≤ c && c ≤ '9' then some (c.toNat - 48)
  else if 'a' ≤ c && c ≤ 'f' then some (c.toNat - 87)
  else if 'A' ≤ c && c ≤ 'F' then some (c.toNat - 55)
  else none

def hexCode? (a b c d : Char) : Option Nat := do
  let a ← hexValue? a
  let b ← hexValue? b
  let c ← hexValue? c
  let d ← hexValue? d
  return ((a * 16 + b) * 16 + c) * 16 + d

def isHighSurrogate (code : Nat) : Bool := 0xd800 ≤ code && code ≤ 0xdbff

def isLowSurrogate (code : Nat) : Bool := 0xdc00 ≤ code && code ≤ 0xdfff

def joinSurrogates (high low : Nat) : Nat :=
  0x10000 + (high - 0xd800) * 0x400 + (low - 0xdc00)

/-- A character by its code.  A surrogate that stands alone has no character: it becomes the
replacement character, so that reading goes on, and the document is one of those left out. -/
def charOfCode (code : Nat) : Char :=
  if 0xd800 ≤ code && code ≤ 0xdfff then Char.ofNat 0xfffd else Char.ofNat code

def shortEscape? : Char → Option Char
  | '"' => some '"'
  | '\\' => some '\\'
  | '/' => some '/'
  | 'b' => some '\x08'
  | 'f' => some '\x0c'
  | 'n' => some '\n'
  | 'r' => some '\r'
  | 't' => some '\t'
  | _ => none

/-- What has been read, last character first, with a first half of a pair still waiting. -/
structure Partial where
  read : List Char
  high : Option Nat

namespace Partial

/-- A first half that is not completed becomes the replacement character. -/
def settled (p : Partial) : List Char :=
  match p.high with
  | some high => charOfCode high :: p.read
  | none => p.read

def addChar (p : Partial) (c : Char) : Partial := ⟨c :: p.settled, none⟩

def addCode (p : Partial) (code : Nat) : Partial :=
  if isHighSurrogate code then ⟨p.settled, some code⟩
  else match p.high with
    | some high =>
        if isLowSurrogate code then ⟨charOfCode (joinSurrogates high code) :: p.read, none⟩
        else p.addChar (charOfCode code)
    | none => p.addChar (charOfCode code)

def text (p : Partial) : String := String.ofList p.settled.reverse

end Partial

/-- Reads the rest of a string; `start` counts the characters from its opening quote on.  Something
has to follow the digits of a code escape. -/
def readString (start : Nat) (p : Partial) : List Char → Outcome String
  | [] => .error ⟨.unterminatedString, start⟩
  | '"' :: rest => .ok (p.text, rest)
  | '\\' :: 'u' :: a :: b :: c :: d :: rest =>
      match hexCode? a b c d with
      | some code =>
          if rest.isEmpty then .error ⟨.badCodeEscape, 5⟩
          else readString start (p.addCode code) rest
      | none => .error ⟨.badCodeEscape, rest.length + 5⟩
  | '\\' :: 'u' :: rest => .error ⟨.badCodeEscape, rest.length + 1⟩
  | ['\\'] => .error ⟨.unterminatedString, start⟩
  | '\\' :: c :: rest =>
      match shortEscape? c with
      | some e => readString start (p.addChar e) rest
      | none => .error ⟨.badEscape, rest.length + 2⟩
  | c :: rest =>
      if c.toNat < 0x20 then .error ⟨.controlCharacter, rest.length + 1⟩
      else readString start (p.addChar c) rest

def digitsValue (digits : List Char) : Nat :=
  digits.foldl (fun n c => n * 10 + (c.toNat - 48)) 0

def isDigit (c : Char) : Bool := '0' ≤ c && c ≤ '9'

/-- The digits before the point: a zero alone, or digits that start with another. -/
def wholeDigits : List Char → Option (List Char × List Char)
  | '0' :: rest => some (['0'], rest)
  | c :: rest =>
      if isDigit c then some (c :: rest.takeWhile isDigit, rest.dropWhile isDigit) else none
  | [] => none

/-- The digits after a point, if at least one follows it. -/
def fractionDigits : List Char → Option (List Char × List Char)
  | '.' :: rest =>
      match rest.takeWhile isDigit with
      | [] => none
      | digits => some (digits, rest.dropWhile isDigit)
  | _ => none

/-- The sign of an exponent, if there is one. -/
def exponentSign : List Char → Bool × List Char
  | '-' :: rest => (true, rest)
  | '+' :: rest => (false, rest)
  | rest => (false, rest)

/-- The exponent, if digits follow its mark and sign. -/
def exponentPart : List Char → Option (Int × List Char)
  | mark :: rest =>
      if mark == 'e' || mark == 'E' then
        let (negative, digits) := exponentSign rest
        match digits.takeWhile isDigit with
        | [] => none
        | ds =>
            let n := Int.ofNat (digitsValue ds)
            some (if negative then -n else n, digits.dropWhile isDigit)
      else none
  | [] => none

def numberSign : List Char → Bool × List Char
  | '-' :: rest => (true, rest)
  | rest => (false, rest)

/-- Reads a number behind its sign; `none` if none stands here. -/
def readUnsigned (negative : Bool) (text : List Char) : Option (Outcome Value) := do
  let (whole, afterWhole) ← wholeDigits text
  let fraction := fractionDigits afterWhole
  let afterFraction := (fraction.map (·.2)).getD afterWhole
  let exponent := exponentPart afterFraction
  let rest := (exponent.map (·.2)).getD afterFraction
  if fraction.isNone && exponent.isNone then
    if whole.length > Number.maxDigits then some (.error ⟨.tooManyDigits whole.length, 0⟩)
    else
      let n := Int.ofNat (digitsValue whole)
      some (.ok (.int (if negative then -n else n), rest))
  else
    let places := (fraction.map (·.1)).getD []
    let power := (exponent.map (·.1)).getD 0 - Int.ofNat places.length
    let x := Binary64.ofDecimal negative (digitsValue (whole ++ places)) power
    some (.ok (.float x, rest))

def readNumber (text : List Char) : Option (Outcome Value) :=
  let (negative, unsigned) := numberSign text
  readUnsigned negative unsigned

def wordTable : List (String × Value) :=
  [("null", .null), ("true", .bool true), ("false", .bool false), ("NaN", .float .nan),
    ("Infinity", .float (.infinity false)), ("-Infinity", .float (.infinity true))]

def readWord (text : List Char) : Option (Value × List Char) :=
  wordTable.findSome? fun (word, value) =>
    if word.toList.isPrefixOf text then some (value, text.drop word.length) else none

mutual

/-- Reads a value that may nest `depth` deep; `fuel` bounds the number of parts. -/
def readValue (fuel depth : Nat) (text : List Char) : Outcome Value :=
  match fuel with
  | 0 => fail (.tooDeep .array) text
  | fuel + 1 =>
      match text with
      | '"' :: rest =>
          (readString (rest.length + 1) ⟨[], none⟩ rest).map fun (s, rest) => (.text s, rest)
      | '[' :: rest =>
          match depth with
          | 0 => fail (.tooDeep .array) text
          | depth + 1 =>
              match skipBlanks rest with
              | ']' :: rest => .ok (.list [], rest)
              | rest => (readItems fuel depth [] rest).map fun (vs, rest) => (.list vs, rest)
      | '\x7b' :: rest =>
          match depth with
          | 0 => fail (.tooDeep .object) text
          | depth + 1 =>
              match skipBlanks rest with
              | '\x7d' :: rest => .ok (.map [], rest)
              | rest => (readEntries fuel depth [] rest).map fun (es, rest) => (.map es, rest)
      | _ =>
          match readWord text with
          | some found => .ok found
          | none => (readNumber text).getD (fail .expectingValue text)

/-- Reads items up to the closing bracket; `items` holds those read, last first. -/
def readItems (fuel depth : Nat) (items : List Value) (text : List Char) :
    Outcome (List Value) :=
  match fuel with
  | 0 => fail (.tooDeep .array) text
  | fuel + 1 =>
      match readValue fuel depth text with
      | .error e => .error e
      | .ok (item, rest) =>
          match skipBlanks rest with
          | ']' :: rest => .ok ((item :: items).reverse, rest)
          | ',' :: rest => readItems fuel depth (item :: items) (skipBlanks rest)
          | rest => fail .expectingComma rest

/-- Reads entries up to the closing brace on top of those read. -/
def readEntries (fuel depth : Nat) (entries : Value.Entries) (text : List Char) :
    Outcome Value.Entries :=
  match fuel with
  | 0 => fail (.tooDeep .object) text
  | fuel + 1 =>
      match text with
      | '"' :: rest =>
          match readString (rest.length + 1) ⟨[], none⟩ rest with
          | .error e => .error e
          | .ok (key, rest) =>
              match skipBlanks rest with
              | ':' :: rest =>
                  match readValue fuel depth (skipBlanks rest) with
                  | .error e => .error e
                  | .ok (value, rest) =>
                      let entries := entries.put (.text key) value
                      match skipBlanks rest with
                      | '\x7d' :: rest => .ok (entries, rest)
                      | ',' :: rest => readEntries fuel depth entries (skipBlanks rest)
                      | rest => fail .expectingComma rest
              | rest => fail .expectingColon rest
      | _ => fail .expectingKey text

end

def maxDepth : Nat := 990

def readChars (text : List Char) : Except Failure Value :=
  match text with
  | '\uFEFF' :: _ => .error ⟨.byteOrderMark, text.length⟩
  | _ =>
      match readValue (2 * text.length + 2) maxDepth (skipBlanks text) with
      | .error e => .error e
      | .ok (value, rest) =>
          match skipBlanks rest with
          | [] => .ok value
          | extra => .error ⟨.extraData, extra.length⟩

def read (text : String) : Except Failure Value :=
  readChars text.toList

/-- The value of a text, nothing if the text is no JSON. -/
def read? (text : String) : Option Value :=
  (read text).toOption

end MobileAudit.Json
