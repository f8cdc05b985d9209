import MobileAudit.Yaml.Cursor

namespace MobileAudit.Yaml

/-! Scalars without quotes. -/

def flowBreakers : List Char := [',', '[', ']', '\x7b', '\x7d']

/-- The place where a word of a plain scalar ends. -/
def stopsPlain (inFlow : Bool) : List Char → Bool
  | [] => true
  | ':' :: rest =>
      endsToken rest.head? || (inFlow && rest.head?.any flowBreakers.contains)
  | c :: _ => endsToken (some c) || (inFlow && (c == '?' || flowBreakers.contains c))

def plainWord (inFlow : Bool) : List Char → List Char
  | [] => []
  | c :: rest => if stopsPlain inFlow (c :: rest) then [] else c :: plainWord inFlow rest

/-- What lies between two words: the text it stands for, whether it holds a line break, and where
it ends.  The text is empty if the scalar ends here. -/
structure Gap where
  text : List Char
  crossedLine : Bool
  cursor : Cursor

/-- Spaces and line breaks up to the next word; nothing at a document marker. -/
def emptyLines : Nat → Cursor → List Char → Option (List Char) × Cursor
  | 0, c, breaks => (some breaks, c)
  | fuel + 1, c, breaks =>
      if c.peek? == some ' ' then emptyLines fuel c.advance breaks
      else
        match c.lineBreak with
        | ([], c) => (some breaks, c)
        | (text, c) =>
            if atMarker c.rest then (none, c) else emptyLines fuel c (breaks ++ text)

def plainGap (c : Cursor) : Gap :=
  let (blanks, c) := c.takeWhile (· == ' ')
  match c.lineBreak with
  | ([], c) => ⟨blanks, false, c⟩
  | (first, c) =>
      if atMarker c.rest then ⟨[], true, c⟩
      else
        match emptyLines (c.left + 1) c [] with
        | (none, c) => ⟨[], true, c⟩
        | (some more, c) => ⟨foldBreaks first more, true, c⟩

structure PlainScalar where
  text : List Char
  /-- Whether a line break was taken last, so that a key may follow. -/
  crossedLine : Bool
  cursor : Cursor

/-- Reads words onto the text read so far, whose last character comes first; `gap` lies before the
next word. -/
def plainOnto (inFlow : Bool) (indent : Int) :
    Nat → Cursor → List Char → List Char → Bool → PlainScalar
  | 0, c, text, _, crossed => ⟨text, crossed, c⟩
  | fuel + 1, c, text, gap, crossed =>
      let word := plainWord inFlow c.rest
      if c.peek? == some '#' || word.isEmpty then ⟨text, crossed, c⟩
      else
        let text := word.reverse ++ gap.reverse ++ text
        let next := plainGap (.skip word.length c)
        if next.text.isEmpty || next.cursor.peek? == some '#' ||
            (!inFlow && next.cursor.column < indent) then
          ⟨text, next.crossedLine, next.cursor⟩
        else plainOnto inFlow indent fuel next.cursor text next.text next.crossedLine

/-- A plain scalar inside a block of the given indent. -/
def plainScalar (inFlow : Bool) (indent : Int) (c : Cursor) : PlainScalar :=
  let scalar := plainOnto inFlow (indent + 1) (c.left + 1) c [] [] false
  { scalar with text := scalar.text.reverse }

end MobileAudit.Yaml
