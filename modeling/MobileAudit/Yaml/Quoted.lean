import MobileAudit.Json.Read
import MobileAudit.Yaml.Cursor

namespace MobileAudit.Yaml

/-! Scalars in quotes. -/

/-- Line breaks and the blanks around them; nothing at a document marker. -/
def quotedBreaks : Nat → Cursor → List Char → Option (List Char × Cursor)
  | 0, _, _ => none
  | fuel + 1, c, breaks =>
      if atMarker c.rest then none
      else
        match (c.skipWhile isBlank).lineBreak with
        | ([], c) => some (breaks, c)
        | (text, c) => quotedBreaks fuel c (breaks ++ text)

def quotedGap (c : Cursor) : Option (List Char × Cursor) :=
  let (blanks, c) := c.takeWhile isBlank
  match c.lineBreak with
  | ([], c) => some (blanks, c)
  | (first, c) =>
      (quotedBreaks (c.left + 1) c []).map fun (more, c) => (foldBreaks first more, c)

def simpleEscapes : List (Char × Char) :=
  [('0', '\x00'), ('a', '\x07'), ('b', '\x08'), ('t', '\t'), ('\t', '\t'), ('n', '\n'),
    ('v', '\x0b'), ('f', '\x0c'), ('r', '\r'), ('e', '\x1b'), (' ', ' '), ('"', '"'),
    ('\\', '\\'), ('/', '/'), ('N', '\u0085'), ('_', '\u00a0'), ('L', '\u2028'), ('P', '\u2029')]

def codeEscapes : List (Char × Nat) := [('x', 2), ('u', 4), ('U', 8)]

def charOfHex? (digits : List Char) : Option Char := do
  let values ← digits.mapM Json.hexValue?
  let code := values.foldl (fun n d => n * 16 + d) 0
  if h : code.isValidChar then some ⟨code.toUInt32, by
    unfold Nat.isValidChar at h
    unfold UInt32.isValidChar
    simp only [Nat.toUInt32, UInt32.toNat_ofNat']
    omega⟩ else none

def escape (c : Cursor) : Option (List Char × Cursor) := do
  let mark ← c.peek?
  match simpleEscapes.lookup mark with
  | some meaning => return ([meaning], c.advance)
  | none =>
      match codeEscapes.lookup mark with
      | some count =>
          let digits := c.advance.rest.take count
          guard (digits.length == count)
          let meaning ← charOfHex? digits
          return ([meaning], .skip (count + 1) c)
      | none =>
          guard (isBreak mark)
          let after := c.lineBreak.2
          quotedBreaks (after.left + 1) after []

/-- Reads up to the closing quote onto the text read so far, whose last character comes first. -/
def quotedOnto (double : Bool) : Nat → Cursor → List Char → Option (List Char × Cursor)
  | 0, _, _ => none
  | fuel + 1, c, text =>
      match c.rest with
      | [] => none
      | ch :: rest =>
          if !double && ch == '\'' && rest.head? == some '\'' then
            quotedOnto double fuel (.skip 2 c) ('\'' :: text)
          else if ch == (if double then '"' else '\'') then some (text.reverse, c.advance)
          else if double && ch == '\\' then
            match escape c.advance with
            | some (piece, c) => quotedOnto double fuel c (piece.reverse ++ text)
            | none => none
          else if isBlank ch || isBreak ch then
            match quotedGap c with
            | some (piece, c) => quotedOnto double fuel c (piece.reverse ++ text)
            | none => none
          else
            let (piece, c) := c.takeWhile fun x =>
              !(x == '\'' || x == '"' || x == '\\' || isBlank x || isBreak x)
            if piece.isEmpty then quotedOnto double fuel c.advance (ch :: text)
            else quotedOnto double fuel c (piece.reverse ++ text)

/-- A scalar in quotes, from its opening quote on. -/
def quotedScalar (double : Bool) (c : Cursor) : Option (List Char × Cursor) :=
  quotedOnto double (c.left + 1) c.advance []

end MobileAudit.Yaml
