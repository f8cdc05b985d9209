import MobileAudit.Json.Read
import MobileAudit.Number.Limit
import MobileAudit.Pattern.CharSet
import MobileAudit.Text.CharName

namespace MobileAudit.Pattern

/-! Written characters: what stands for one character, or for a class of characters, in the text of
a pattern. -/

/-- What keeps a text from being read to its end, whether what follows is well formed or not. -/
inductive Breakdown where
  /-- A bound on repetitions that no counter holds. -/
  | manyRepetitions
  /-- A bound with more digits than are read. -/
  | manyDigits (digits : Nat)
  /-- A code that no machine integer holds. -/
  | largeCode
  /-- Parts within parts beyond what can be followed. -/
  | tooDeep
deriving DecidableEq

def Breakdown.message : Breakdown → String
  | manyRepetitions => "the repetition number is too large"
  | manyDigits digits => Number.unreadText digits
  | largeCode => "Python int too large to convert to C int"
  | tooDeep => "maximum recursion depth exceeded"

/-- Why a text is not read as a pattern.  A malformed text can be left out; what breaks down does
not come back to whoever asked. -/
inductive Failure where
  | malformed
  | broken (cause : Breakdown)
deriving DecidableEq

def orMalformed {α : Type} : Option α → Except Failure α
  | some read => .ok read
  | none => .error .malformed

inductive Symbol where
  | code (n : Nat)
  | named (item : CharItem)
deriving DecidableEq

def isSurrogate (code : Nat) : Bool := 0xd800 ≤ code && code ≤ 0xdfff

/-- The characters between two codes; halves of pairs are no characters. -/
def rangeItem (first last : Nat) : CharItem :=
  let first := if isSurrogate first then 0xe000 else first
  let last := if isSurrogate last then 0xd7ff else last
  if first ≤ last then .range (Char.ofNat first) (Char.ofNat last) else .range 'b' 'a'

def lastCode : Nat := 0x10ffff

namespace CharItem

/-- A class cut down to ASCII, as the ranges that make it up. -/
def asciiItems : CharItem → List CharItem
  | word => [range '0' '9', range 'A' 'Z', one '_', range 'a' 'z']
  | notWord =>
      [range '\x00' '/', range ':' '@', range '[' '^', one '`', rangeItem 0x7b lastCode]
  | digit => [range '0' '9']
  | notDigit => [range '\x00' '/', rangeItem 0x3a lastCode]
  | space => [range '\t' '\r', one ' ']
  | notSpace => [range '\x00' '\x08', range '\x0e' '\x1f', rangeItem 0x21 lastCode]
  | item => [item]

end CharItem

namespace Symbol

/-- The items of a symbol, with classes cut down to ASCII if that is asked for. -/
def items (ascii : Bool) : Symbol → List CharItem
  | code n => [if isSurrogate n then rangeItem n n else .one (Char.ofNat n)]
  | named item => if ascii then item.asciiItems else [item]

end Symbol

def numberOfDigits (base : Nat) (digits : List Char) : Nat :=
  digits.foldl (fun n c => n * base + (Json.hexValue? c).getD 0) 0

def isOctalDigit (c : Char) : Bool := '0' ≤ c && c ≤ '7'

/-- A code written with exactly `width` hexadecimal digits. -/
def readHex (width : Nat) (text : List Char) : Except Failure (Symbol × List Char) :=
  let digits := (text.take width).takeWhile Text.isHexDigit
  let code := numberOfDigits 16 digits
  if digits.length != width then .error .malformed
  else if code ≤ lastCode then .ok (.code code, text.drop width)
  else .error (if code < 0x80000000 then .malformed else .broken .largeCode)

/-- Up to three octal digits, of which the first is given. -/
def readOctal (first : Char) (text : List Char) : Except Failure (Symbol × List Char) :=
  let more := (text.take 2).takeWhile isOctalDigit
  let code := numberOfDigits 8 (first :: more)
  if code ≤ 0xff then .ok (.code code, text.drop more.length) else .error .malformed

/-- What stands before a closing sign, which no backslash may precede.  It must not be empty. -/
def readUntil (close : Char) (taken : List Char) : List Char → Option (List Char × List Char)
  | [] => none
  | '\\' :: c :: rest => readUntil close (c :: '\\' :: taken) rest
  | c :: rest =>
      if c == close then (if taken.isEmpty then none else some (taken.reverse, rest))
      else readUntil close (c :: taken) rest

def readNamed : List Char → Option (Symbol × List Char)
  | '\x7b' :: rest => do
      let (name, rest) ← readUntil '\x7d' [] rest
      return (.code (← Text.codeNamed? name), rest)
  | _ => none

/-- What follows a backslash, where it means the same inside and outside of sets. -/
def readCommonEscape (c : Char) (rest : List Char) : Except Failure (Symbol × List Char) :=
  match c with
  | 'a' => .ok (.code 7, rest)
  | 'f' => .ok (.code 12, rest)
  | 'n' => .ok (.code 10, rest)
  | 'r' => .ok (.code 13, rest)
  | 't' => .ok (.code 9, rest)
  | 'v' => .ok (.code 11, rest)
  | 'd' => .ok (.named .digit, rest)
  | 'D' => .ok (.named .notDigit, rest)
  | 's' => .ok (.named .space, rest)
  | 'S' => .ok (.named .notSpace, rest)
  | 'w' => .ok (.named .word, rest)
  | 'W' => .ok (.named .notWord, rest)
  | 'x' => readHex 2 rest
  | 'u' => readHex 4 rest
  | 'U' => readHex 8 rest
  | 'N' => orMalformed (readNamed rest)
  | _ => if Text.isAsciiAlnum c then .error .malformed else .ok (.code c.toNat, rest)

end MobileAudit.Pattern
