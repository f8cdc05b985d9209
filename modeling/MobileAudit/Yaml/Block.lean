import MobileAudit.Text.Class
import MobileAudit.Yaml.Cursor

namespace MobileAudit.Yaml

/-! Scalars whose text is an indented block of lines. -/

/-- What becomes of the line breaks after the last line. -/
inductive Chomping where
  | clip
  | strip
  | keep
deriving DecidableEq

structure BlockHeader where
  chomping : Chomping
  increment : Option Nat

def chompingOf? : Option Char → Option Chomping
  | some '+' => some .keep
  | some '-' => some .strip
  | _ => none

def incrementOf? (c : Option Char) : Option Nat :=
  (c.filter Text.isAsciiDigit).map fun c => c.toNat - '0'.toNat

/-- The signs after the mark of a block, in either order; an increment of zero is none. -/
def blockHeader (c : Cursor) : Option (BlockHeader × Cursor) := do
  let (header, c) : BlockHeader × Cursor :=
    match chompingOf? c.peek? with
    | some chomping =>
        let c := c.advance
        match incrementOf? c.peek? with
        | some n => (⟨chomping, some n⟩, c.advance)
        | none => (⟨chomping, none⟩, c)
    | none =>
        match incrementOf? c.peek? with
        | some n =>
            let c := c.advance
            match chompingOf? c.peek? with
            | some chomping => (⟨chomping, some n⟩, c.advance)
            | none => (⟨.clip, some n⟩, c)
        | none => (⟨.clip, none⟩, c)
  guard (header.increment != some 0)
  guard (endsWord c.peek?)
  return (header, c)

/-- Empty lines before the first line, and the deepest column among them. -/
def leadingLines : Nat → Cursor → List Char → Nat → List Char × Nat × Cursor
  | 0, c, breaks, deepest => (breaks, deepest, c)
  | fuel + 1, c, breaks, deepest =>
      if c.peek? == some ' ' then
        leadingLines fuel c.advance breaks (max deepest c.advance.column)
      else
        match c.lineBreak with
        | ([], c) => (breaks, deepest, c)
        | (text, c) => leadingLines fuel c (breaks ++ text) deepest

def skipIndent : Nat → Nat → Cursor → Cursor
  | 0, _, c => c
  | fuel + 1, indent, c =>
      if c.column < indent && c.peek? == some ' ' then skipIndent fuel indent c.advance else c

/-- Empty lines between lines of the block. -/
def innerBreaks (indent : Nat) : Nat → Cursor → List Char → List Char × Cursor
  | 0, c, breaks => (breaks, c)
  | fuel + 1, c, breaks =>
      match (skipIndent indent indent c).lineBreak with
      | ([], c) => (breaks, c)
      | (text, c) => innerBreaks indent fuel c (breaks ++ text)

/-- The lines read so far, the last character first, with the breaks after the last line. -/
structure BlockText where
  text : List Char
  lastBreak : List Char
  breaks : List Char
  cursor : Cursor

def blockLines (folded : Bool) (indent : Nat) :
    Nat → Cursor → List Char → List Char → List Char → BlockText
  | 0, c, text, breaks, lastBreak => ⟨text, lastBreak, breaks, c⟩
  | fuel + 1, c, text, breaks, lastBreak =>
      if c.column != indent || c.atEnd then ⟨text, lastBreak, breaks, c⟩
      else
        let startsBlank := c.peek?.any isBlank
        let (line, c) := c.takeWhile (!isBreak ·)
        let (lineEnd, c) := c.lineBreak
        let (more, c) := innerBreaks indent (c.left + 1) c []
        let text := line.reverse ++ breaks.reverse ++ text
        if c.column == indent && !c.atEnd then
          let glue :=
            if folded && lineEnd == ['\n'] && !startsBlank && !c.peek?.any isBlank then
              (if more.isEmpty then [' '] else [])
            else lineEnd
          blockLines folded indent fuel c (glue.reverse ++ text) more lineEnd
        else ⟨text, lineEnd, more, c⟩

/-- A block scalar, from its mark on, inside a block of the given indent. -/
def blockScalar (folded : Bool) (outer : Int) (c : Cursor) : Option (List Char × Cursor) := do
  let (header, c) ← blockHeader c.advance
  let c ← c.restOfLine?
  let least := (max 1 (outer + 1)).toNat
  let (breaks, indent, c) :=
    match header.increment with
    | none =>
        let (breaks, deepest, c) := leadingLines (c.left + 1) c [] 0
        (breaks, max least deepest, c)
    | some n =>
        let indent := least + n - 1
        let (breaks, c) := innerBreaks indent (c.left + 1) c []
        (breaks, indent, c)
  let block := blockLines folded indent (c.left + 1) c [] breaks []
  let tail := match header.chomping with
    | .strip => []
    | .clip => block.lastBreak
    | .keep => block.lastBreak ++ block.breaks
  return (block.text.reverse ++ tail, block.cursor)

end MobileAudit.Yaml
