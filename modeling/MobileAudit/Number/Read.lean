import MobileAudit.Number.Binary64
import MobileAudit.Number.Limit
import MobileAudit.Text.Case
import MobileAudit.Text.Split

namespace MobileAudit.Number

/-! Numbers in loosely written texts: blanks around them and digits of any script are allowed. -/

/-- The blanks that may surround a number; they leave out the separators U+001C to U+001F. -/
def isMargin (c : Char) : Bool :=
  Text.isSpace c && !(0x1c ≤ c.toNat && c.toNat ≤ 0x1f)

def trimMargins (text : List Char) : List Char := Text.trimWhere isMargin text

def signOf : List Char → Bool × List Char
  | '-' :: rest => (true, rest)
  | '+' :: rest => (false, rest)
  | text => (false, text)

/-- The value of a digit below 36. -/
def digitValue? (c : Char) : Option Nat :=
  if Text.isAsciiLower c then some (c.toNat - 'a'.toNat + 10)
  else if Text.isAsciiUpper c then some (c.toNat - 'A'.toNat + 10)
  else Text.decimalValue? c

def natInBase? (base : Nat) (digits : List Char) : Option Nat :=
  if digits.isEmpty then none
  else digits.foldlM (fun n c => do
    let d ← digitValue? c
    if d < base then some (n * base + d) else none) 0

/-- The letter that may stand after a leading zero for a base. -/
def baseLetter? (base : Nat) : Option Char :=
  [(2, 'b'), (8, 'o'), (16, 'x')].lookup base

def dropBaseMark (base : Nat) (text : List Char) : List Char :=
  match text with
  | '0' :: letter :: rest =>
      if (baseLetter? base).any fun l => l == letter || l == letter.toLower then rest else text
  | _ => text

def intInBase? (base : Nat) (text : List Char) : Option Int :=
  let (negative, digits) := signOf (trimMargins text)
  (natInBase? base (dropBaseMark base digits)).map fun n => if negative then -n else n

def takeDecimals (text : List Char) : List Nat × List Char :=
  ((text.takeWhile Text.isDecimal).filterMap Text.decimalValue?, text.dropWhile Text.isDecimal)

def decimalNat (digits : List Nat) : Nat := digits.foldl (fun n d => n * 10 + d) 0

inductive Conversion where
  | integer (n : Int)
  | tooLong (digits : Nat)
  | malformed
deriving DecidableEq

/-- The integer that a text writes with a sign and digits of any script, between which single
underscores may stand.  The number of digits is looked at before what follows them. -/
def convert (text : List Char) : Conversion :=
  let (negative, body) := signOf (trimMargins text)
  let run := body.takeWhile fun c => Text.isDecimal c || c == '_'
  let digits := run.filterMap Text.decimalValue?
  if (Text.splitOn '_' run).any (·.isEmpty) then .malformed
  else if digits.length > maxDigits then .tooLong digits.length
  else if run.length < body.length then .malformed
  else .integer (if negative then -(decimalNat digits : Int) else decimalNat digits)

def convert? (text : List Char) : Option Int :=
  match convert text with
  | .integer n => some n
  | _ => none

def exponentOf? : List Char → Option Int
  | [] => some 0
  | c :: rest =>
      if c == 'e' || c == 'E' then
        let (negative, digits) := signOf rest
        match takeDecimals digits with
        | ([], _) => none
        | (values, []) =>
            some (if negative then -(decimalNat values : Int) else decimalNat values)
        | _ => none
      else none

/-- A decimal number with a point and an exponent, both optional. -/
def decimal? (negative : Bool) (text : List Char) : Option Binary64 := do
  let (whole, rest) := takeDecimals text
  let (places, rest) := match rest with
    | '.' :: rest => takeDecimals rest
    | _ => ([], rest)
  if whole.isEmpty && places.isEmpty then none
  let power ← exponentOf? rest
  return Binary64.ofDecimal negative (decimalNat (whole ++ places)) (power - places.length)

/-- A number with a sign, or a word for infinity or no number. -/
def float? (text : List Char) : Option Binary64 :=
  let (negative, body) := signOf (trimMargins text)
  let word := Text.lower (String.ofList body)
  if word == "inf" || word == "infinity" then some (.infinity negative)
  else if word == "nan" then some .nan
  else decimal? negative body

end MobileAudit.Number
