import MobileAudit.Document.Calendar
import MobileAudit.Number.Read
import MobileAudit.Pattern.Match
import MobileAudit.Toml.Text

namespace MobileAudit.Toml

/-! Numbers, dates and times. -/

open Pattern Document

namespace Form

def digit : CharSet := .range '0' '9'

def inSequence : List Pattern → Pattern
  | [] => .empty
  | [only] => only
  | first :: rest => first ++ inSequence rest

/-- Digits of a kind, with single underscores between them. -/
def grouped (first other : CharSet) : Pattern :=
  .set first ++ star (Pattern.optional (lit "_") ++ .set other)

def hexDigit : CharSet := digit ∪ .range 'A' 'F' ∪ .range 'a' 'f'

def binDigit : CharSet := .range '0' '1'

def octDigit : CharSet := .range '0' '7'

/-- A number; group 1 is what makes it a floating one. -/
def number : Pattern :=
  oneOf [
    lit "0" ++ oneOf [lit "x" ++ grouped hexDigit hexDigit, lit "b" ++ grouped binDigit binDigit,
      lit "o" ++ grouped octDigit octDigit],
    inSequence [Pattern.optional (.set (.ofChars "+-")),
      oneOf [lit "0", grouped (.range '1' '9') digit],
      .group 1 (Pattern.optional (lit "." ++ grouped digit digit) ++
        Pattern.optional (inSequence [.set (.ofChars "eE"), Pattern.optional (.set (.ofChars "+-")),
          grouped digit digit]))]]

def hour : Pattern :=
  oneOf [.set (.ofChars "01") ++ .set digit, lit "2" ++ .set (.range '0' '3')]

def sixty : Pattern := .set (.range '0' '5') ++ .set digit

/-- A time of day: hour, minute, second and at most six digits of a fraction. -/
def time : Pattern :=
  inSequence [.group 4 hour, lit ":", .group 5 sixty, lit ":", .group 6 sixty,
    Pattern.optional (inSequence [lit ".", .group 7 (.run digit 1 (some 6) false), digit.many])]

def date : Pattern :=
  inSequence [.group 1 (digit.exactly 4), lit "-",
    .group 2 (oneOf [lit "0" ++ .set (.range '1' '9'), lit "1" ++ .set (.range '0' '2')]), lit "-",
    .group 3 (oneOf [lit "0" ++ .set (.range '1' '9'), .set (.ofChars "12") ++ .set digit,
      lit "3" ++ .set (.ofChars "01")])]

/-- A distance from universal time: the letter for none, or sign, hours and minutes. -/
def zone : Pattern :=
  oneOf [.group 8 (.set (.ofChars "Zz")),
    inSequence [.group 9 (.set (.ofChars "+-")), .group 10 hour, lit ":", .group 11 sixty]]

def moment : Pattern :=
  date ++ Pattern.optional (inSequence [.set (.ofChars "Tt "), time, Pattern.optional zone])

end Form

def numberAt (m : Match) (index : Nat) : Nat := Json.digitsValue (m.groupText index)

def timeOf? (m : Match) : Option Time :=
  Time.make? (numberAt m 4) (numberAt m 5) (numberAt m 6)
    (microseconds ((m.groupText 7).filterMap Text.decimalValue?))

def momentOf? (m : Match) : Option Value := do
  let date ← Date.make? (numberAt m 1) (numberAt m 2) (numberAt m 3)
  if (m.group? 4).isNone then return .date date
  let time ← timeOf? m
  if (m.group? 9).isSome then
    let zone ← zone? (m.groupText 9 == ['-']) (numberAt m 10) (numberAt m 11)
    return .moment ⟨date, time, some zone⟩
  else return .moment ⟨date, time, if (m.group? 8).isSome then some 0 else none⟩

def numberOf? (m : Match) (text : List Char) : Option Value :=
  let text := text.filter (· != '_')
  if (m.groupText 1).isEmpty then
    match text with
    | '0' :: 'x' :: digits => (Number.intInBase? 16 digits).map .int
    | '0' :: 'b' :: digits => (Number.intInBase? 2 digits).map .int
    | '0' :: 'o' :: digits => (Number.intInBase? 8 digits).map .int
    | _ =>
        if (Number.signOf text).2.length > Number.maxDigits then none
        else (Number.intInBase? 10 text).map .int
  else (Number.float? text).map .float

/-- Words for floating values that are no finite numbers. -/
def wordOf? (text : List Char) : Taken Value :=
  ["inf", "nan", "-inf", "+inf", "-nan", "+nan"].findSome? fun word =>
    if word.toList.isPrefixOf text then
      (Number.float? word.toList).map fun x => (.float x, text.drop word.length)
    else none

/-- A date or time, a number, or a word for one. -/
def scalar? (text : List Char) : Taken Value :=
  match Form.moment.matchHere? text with
  | some m => (momentOf? m).map fun v => (v, text.drop m.stop)
  | none =>
      match Form.time.matchHere? text with
      | some m => (timeOf? m).map fun t => (.time t, text.drop m.stop)
      | none =>
          match Form.number.matchHere? text with
          | some m => (numberOf? m (text.take m.stop)).map fun v => (v, text.drop m.stop)
          | none => wordOf? text

end MobileAudit.Toml
