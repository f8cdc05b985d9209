import MobileAudit.Text.Split

namespace MobileAudit.Location

/-! Places in a file: the line of an offset and the lines around a line. -/

/-- The number of the line, counted from one, that holds the character at an offset. -/
def lineOf (content : List Char) (offset : Int) : Nat :=
  (content.take offset.toNat).count '\n' + 1

/-- An end of a slice: a negative one counts from the end of the list. -/
def sliceEnd (length : Nat) (stop : Int) : Nat :=
  if stop < 0 then (Int.ofNat length + stop).toNat else stop.toNat

/-- The lines from `context` before to `context` after a line, as far as the file goes. -/
def linesAround (lines : List (List Char)) (line context : Int) : List (List Char) :=
  let first := max 1 (line - context)
  let last := min (Int.ofNat lines.length) (line + context)
  (lines.take (sliceEnd lines.length last)).drop (first - 1).toNat

def snippet (content : List Char) (line : Int) (context : Int) : List Char :=
  Text.joinWith ['\n'] (linesAround (Text.lines content) line context)

end MobileAudit.Location
