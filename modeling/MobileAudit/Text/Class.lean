import MobileAudit.Text.Table.Alphanumeric
import MobileAudit.Text.Table.Case
import MobileAudit.Text.Table.Digit
import MobileAudit.Text.Table.Name
import MobileAudit.Text.Table.Printable

namespace MobileAudit.Text

/-! Character classes.  Below U+0080 every class is spelled out; from there on a class is a table
of the code points at which membership changes. -/

/-- A code point is a member when an odd number of changes lies at or below it. -/
def changedOdd (changes : Array Nat) (code : Nat) : Bool :=
  changes.foldl (fun odd bound => if bound ≤ code then !odd else odd) false

def isAsciiLower (c : Char) : Bool :=
  'a' ≤ c && c ≤ 'z'

def isAsciiUpper (c : Char) : Bool :=
  'A' ≤ c && c ≤ 'Z'

def isAsciiDigit (c : Char) : Bool :=
  '0' ≤ c && c ≤ '9'

def isAsciiLetter (c : Char) : Bool :=
  isAsciiLower c || isAsciiUpper c

def isAsciiAlnum (c : Char) : Bool :=
  isAsciiLetter c || isAsciiDigit c

def isHexDigit (c : Char) : Bool :=
  isAsciiDigit c || ('a' ≤ c && c ≤ 'f') || ('A' ≤ c && c ≤ 'F')

/-- Decides a class by its ASCII part below U+0080 and by its table of changes above. -/
def inClass (ascii : Char → Bool) (changes : Array Nat) (c : Char) : Bool :=
  if c.toNat < 0x80 then ascii c else changedOdd changes c.toNat

def isSpace (c : Char) : Bool :=
  let code := c.toNat
  (0x09 ≤ code && code ≤ 0x0d) || (0x1c ≤ code && code ≤ 0x20) ||
    code == 0x85 || code == 0xa0 || code == 0x1680 ||
    (0x2000 ≤ code && code ≤ 0x200a) || code == 0x2028 || code == 0x2029 ||
    code == 0x202f || code == 0x205f || code == 0x3000

def isAlnum (c : Char) : Bool :=
  inClass isAsciiAlnum Table.alphanumeric c

def isWord (c : Char) : Bool :=
  isAlnum c || c == '_'

def isNameStart (c : Char) : Bool :=
  inClass (fun c => isAsciiLetter c || c == '_') Table.nameStart c

def isNameRest (c : Char) : Bool :=
  inClass (fun c => isAsciiAlnum c || c == '_') Table.nameRest c

def isDecimal (c : Char) : Bool :=
  inClass isAsciiDigit Table.decimal c

def isDigit (c : Char) : Bool :=
  inClass isAsciiDigit Table.digit c

def isLower (c : Char) : Bool :=
  inClass isAsciiLower Table.lowercase c

def isUpper (c : Char) : Bool :=
  inClass isAsciiUpper Table.uppercase c

def isPrintable (c : Char) : Bool :=
  inClass (fun c => ' ' ≤ c && c ≤ '~') Table.printable c

/-- The value of a decimal digit of any script: runs of digits start at a zero. -/
def decimalValue? (c : Char) : Option Nat :=
  if c.toNat < 0x80 then
    if isAsciiDigit c then some (c.toNat - '0'.toNat) else none
  else if isDecimal c then
    let start := Table.decimal.foldl
      (fun best bound => if bound ≤ c.toNat then bound else best) 0
    some ((c.toNat - start) % 10)
  else none

end MobileAudit.Text
