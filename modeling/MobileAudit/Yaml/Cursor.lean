namespace MobileAudit.Yaml

/-! A place in a text with its line and column. -/

def isBreak (c : Char) : Bool :=
  c == '\n' || c == '\r' || c == '\u0085' || c == '\u2028' || c == '\u2029'

def isBlank (c : Char) : Bool := c == ' ' || c == '\t'

/-- The end of the text or of a line. -/
def endsLine : Option Char → Bool
  | none => true
  | some c => isBreak c

/-- The end of a line or a space. -/
def endsWord (c : Option Char) : Bool := endsLine c || c == some ' '

/-- The end of a line, a space or a tab. -/
def endsToken (c : Option Char) : Bool := endsWord c || c == some '\t'

/-- The start of a document marker, which separates documents at the start of a line. -/
def atMarker (text : List Char) : Bool :=
  (text.take 3 == ['-', '-', '-'] || text.take 3 == ['.', '.', '.']) && endsToken text[3]?

structure Cursor where
  rest : List Char
  /-- How many characters there are to come. -/
  left : Nat := rest.length
  index : Nat := 0
  line : Nat := 0
  column : Nat := 0

namespace Cursor

def peek? (c : Cursor) : Option Char := c.rest.head?

def atEnd (c : Cursor) : Bool := c.rest.isEmpty

/-- Goes one character on.  A byte order mark takes no column. -/
def advance (c : Cursor) : Cursor :=
  match c.rest with
  | [] => c
  | ch :: rest =>
      if isBreak ch && !(ch == '\r' && rest.head? == some '\n') then
        ⟨rest, c.left - 1, c.index + 1, c.line + 1, 0⟩
      else if ch == '\uFEFF' then ⟨rest, c.left - 1, c.index + 1, c.line, c.column⟩
      else ⟨rest, c.left - 1, c.index + 1, c.line, c.column + 1⟩

def skip : Nat → Cursor → Cursor
  | 0, c => c
  | n + 1, c => skip n c.advance

def takeWhile (c : Cursor) (test : Char → Bool) : List Char × Cursor :=
  let taken := c.rest.takeWhile test
  (taken, skip taken.length c)

def skipWhile (c : Cursor) (test : Char → Bool) : Cursor := (c.takeWhile test).2

/-- Takes a line break, if there is one.  Breaks other than the two rare separators are written as
newlines. -/
def lineBreak (c : Cursor) : List Char × Cursor :=
  match c.rest with
  | '\r' :: '\n' :: _ => (['\n'], skip 2 c)
  | ch :: _ =>
      if ch == '\u2028' || ch == '\u2029' then ([ch], c.advance)
      else if isBreak ch then (['\n'], c.advance)
      else ([], c)
  | [] => ([], c)

def skipComment (c : Cursor) : Cursor :=
  let c := c.skipWhile (· == ' ')
  if c.peek? == some '#' then c.skipWhile (!isBreak ·) else c

/-- Takes the rest of a line that may hold only a comment. -/
def restOfLine? (c : Cursor) : Option Cursor :=
  let c := c.skipComment
  if endsLine c.peek? then some c.lineBreak.2 else none

end Cursor

/-- How a line break between two pieces of text is read: a single one is a space, further ones
are kept. -/
def foldBreaks (first more : List Char) : List Char :=
  if first != ['\n'] then first ++ more else if more.isEmpty then [' '] else more

end MobileAudit.Yaml
