import MobileAudit.Check.Scalar
import MobileAudit.Document.Calendar
import MobileAudit.Number.Read
import MobileAudit.Pattern.Match
import MobileAudit.Text.Base64

namespace MobileAudit.Yaml

/-! What scalars mean.  A plain scalar is a truth value, a number, a date or nothing at all if its
text has the form of one. -/

open Pattern Document

/-- Why a document has no value.  Besides malformed documents, an explicit tag may stand at a text
that its kind cannot even examine. -/
inductive Failure where
  | malformed
  | unknownTruth (word : String)
  | emptyNumber
  | notMoment
  | beyondFloat
deriving DecidableEq

namespace Failure

def message : Failure → String
  | malformed => "malformed document"
  | unknownTruth word => Text.quoted word
  | emptyNumber => "string index out of range"
  | notMoment => "'NoneType' object has no attribute 'groupdict'"
  | beyondFloat => "int too large to convert to float"

end Failure

def tagSpace : String := "tag:yaml.org,2002:"

namespace Form

def digit : CharSet := .range '0' '9'

def grouped : CharSet := digit ∪ .one '_'

def sign : Pattern := Pattern.optional (.set (.ofChars "+-"))

def digits : Pattern := .set digit ++ grouped.many

def sixtieth : Pattern := lit ":" ++ (Pattern.optional (.set (.range '0' '5')) ++ .set digit)

def whole (body : Pattern) : Pattern := .textStart ++ (body ++ .textEnd)

def truth : Pattern :=
  whole (words ["yes", "Yes", "YES", "no", "No", "NO", "true", "True", "TRUE", "false", "False",
    "FALSE", "on", "On", "ON", "off", "Off", "OFF"])

def exponent : Pattern :=
  Pattern.optional (.set (.ofChars "eE") ++ (.set (.ofChars "-+") ++ digit.some))

def float : Pattern :=
  whole (oneOf [
    sign ++ (digits ++ (lit "." ++ (grouped.many ++ exponent))),
    lit "." ++ (digits ++ exponent),
    sign ++ (digits ++ (plus sixtieth ++ (lit "." ++ grouped.many))),
    sign ++ (lit "." ++ words ["inf", "Inf", "INF"]),
    lit "." ++ words ["nan", "NaN", "NAN"]])

def integer : Pattern :=
  whole (oneOf [
    sign ++ (lit "0b" ++ (CharSet.ofChars "01_").some),
    sign ++ (lit "0" ++ (CharSet.range '0' '7' ∪ .one '_').some),
    sign ++ (lit "0" <|> .set (.range '1' '9') ++ grouped.many),
    sign ++ (lit "0x" ++ (grouped ∪ .range 'a' 'f' ∪ .range 'A' 'F').some),
    sign ++ (.set (.range '1' '9') ++ (grouped.many ++ plus sixtieth))])

def nothing : Pattern := whole (words ["~", "null", "Null", "NULL"])

def oneOrTwo : Pattern := .run digit 1 (some 2) false

def inSequence : List Pattern → Pattern
  | [] => .empty
  | [only] => only
  | first :: rest => first ++ inSequence rest

/-- The parts of a date, by number: year, month and day. -/
def dateParts (month day : Pattern) : Pattern :=
  inSequence [.group 1 (digit.exactly 4), lit "-", .group 2 month, lit "-", .group 3 day]

/-- The parts of a time after a date: hour, minute, second, fraction, zone, and the sign, hours and
minutes of the zone. -/
def timeParts : Pattern :=
  let blank := CharSet.ofChars " \t"
  let distance := inSequence [.group 9 (.set (.ofChars "-+")), .group 10 oneOrTwo,
    Pattern.optional (lit ":" ++ .group 11 (digit.exactly 2))]
  inSequence [.set (.ofChars "Tt") <|> blank.some, .group 4 oneOrTwo, lit ":",
    .group 5 (digit.exactly 2), lit ":", .group 6 (digit.exactly 2),
    Pattern.optional (lit "." ++ .group 7 digit.many),
    Pattern.optional (blank.many ++ .group 8 (lit "Z" <|> distance))]

def moment : Pattern := whole (dateParts oneOrTwo oneOrTwo ++ timeParts)

def date : Pattern := whole (dateParts (digit.exactly 2) (digit.exactly 2))

/-- A date or a moment that an explicit tag announces. -/
def taggedMoment : Pattern :=
  whole (dateParts oneOrTwo oneOrTwo ++ Pattern.optional timeParts)

end Form

/-- The kind of a plain scalar. -/
def plainTag (text : List Char) : String :=
  tagSpace ++
    (if text.isEmpty || Form.nothing.matchesStart text then "null"
    else if Form.truth.matchesStart text then "bool"
    else if Form.float.matchesStart text then "float"
    else if Form.integer.matchesStart text then "int"
    else if (Form.whole (lit "<<")).matchesStart text then "merge"
    else if Form.date.matchesStart text || Form.moment.matchesStart text then "timestamp"
    else if (Form.whole (lit "=")).matchesStart text then "value"
    else if (Form.whole (.set (.ofChars "!&*"))).matchesStart text then "yaml"
    else "str")

def truthOf (text : String) : Except Failure Value :=
  let word := Text.lower text
  if ["yes", "true", "on"].contains word then .ok (.bool true)
  else if ["no", "false", "off"].contains word then .ok (.bool false)
  else .error (.unknownTruth word)

def decimalOf (text : List Char) : Except Failure Int :=
  match Number.convert? text with
  | some n => .ok n
  | none => .error .malformed

def inBase (base : Nat) (text : List Char) : Except Failure Int :=
  match Number.intInBase? base text with
  | some n => .ok n
  | none => .error .malformed

/-- A number in one of the notations for integers, the last of which counts in sixties. -/
def integerOf (text : List Char) : Except Failure Value := do
  let text := text.filter (· != '_')
  if text.isEmpty then throw .emptyNumber
  let (negative, digits) := Number.signOf text
  let size ← match digits with
    | [] => throw .emptyNumber
    | ['0'] => pure 0
    | '0' :: 'b' :: rest => inBase 2 rest
    | '0' :: 'x' :: rest => inBase 16 rest
    | '0' :: _ => inBase 8 digits
    | _ =>
        if digits.contains ':' then do
          let parts ← (Text.splitOn ':' digits).mapM decimalOf
          pure (parts.foldl (fun n part => n * 60 + part) 0)
        else decimalOf digits
  return .int (if negative then -size else size)

/-- The sum of floating parts that count in sixties, the last one first; the integer that a part
counts has to be one of the numbers' range. -/
def sumSixties (total : Float) (base : Nat) : List Float → Except Failure Float
  | [] => .ok total
  | part :: rest =>
      let weight := Binary64.ofInt base
      if weight.isInfinite then .error .beyondFloat
      else sumSixties (total + part * Float.ofBits weight.bits) (base * 60) rest

def floatOf (text : List Char) : Except Failure Value := do
  let text := (Text.lower (String.ofList (text.filter (· != '_')))).toList
  if text.isEmpty then throw .emptyNumber
  let (negative, body) := Number.signOf text
  let asFloat := fun part : List Char => match Number.float? part with
    | some x => pure (Float.ofBits x.bits)
    | none => throw Failure.malformed
  let size : Float ←
    if body == ".inf".toList then pure (Float.ofBits (Binary64.infinity false).bits)
    else if body == ".nan".toList then return .float .nan
    else if body.contains ':' then do
      let parts ← (Text.splitOn ':' body).mapM asFloat
      sumSixties 0 1 parts.reverse
    else asFloat body
  return .float ⟨(if negative then -size else size).toBits⟩

def natOf (digits : List Char) : Nat := Json.digitsValue digits

/-- The date or the moment that the parts of a text name. -/
def momentOf (text : List Char) : Except Failure Value := do
  let some parts := Form.taggedMoment.search text | throw .notMoment
  let number := fun i => natOf (parts.groupText i)
  let some date := Date.make? (number 1) (number 2) (number 3) | throw .malformed
  if (parts.group? 4).isNone then return .date date
  let micro := microseconds ((parts.groupText 7).filterMap Text.decimalValue?)
  let some time := Time.make? (number 4) (number 5) (number 6) micro | throw .malformed
  if (parts.group? 9).isSome then
    let some zone := zone? (parts.groupText 9 == ['-']) (number 10) (number 11)
      | throw .malformed
    return .moment ⟨date, time, some zone⟩
  else if (parts.group? 8).isSome then return .moment ⟨date, time, some 0⟩
  else return .moment ⟨date, time, none⟩

end MobileAudit.Yaml
