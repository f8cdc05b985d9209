import MobileAudit.Number.Limit
import MobileAudit.Text.Split

namespace MobileAudit.Json

/-! Why a text is not read as JSON, and where. -/

inductive Container where
  | array
  | object
deriving DecidableEq

inductive Cause where
  | expectingValue
  | extraData
  | expectingKey
  | expectingColon
  | expectingComma
  | unterminatedString
  | controlCharacter
  | badEscape
  | badCodeEscape
  | byteOrderMark
  | tooManyDigits (count : Nat)
  | tooDeep (container : Container)
deriving DecidableEq

/-- A cause, with the number of characters from its place to the end of the text. -/
structure Failure where
  cause : Cause
  remaining : Nat
deriving DecidableEq

def Cause.text : Cause → String
  | expectingValue => "Expecting value"
  | extraData => "Extra data"
  | expectingKey => "Expecting property name enclosed in double quotes"
  | expectingColon => "Expecting ':' delimiter"
  | expectingComma => "Expecting ',' delimiter"
  | unterminatedString => "Unterminated string starting at"
  | controlCharacter => "Invalid control character at"
  | badEscape => "Invalid \\escape"
  | badCodeEscape => "Invalid \\uXXXX escape"
  | byteOrderMark => "Unexpected UTF-8 BOM (decode using utf-8-sig)"
  | tooManyDigits count => Number.unreadText count
  | tooDeep .array =>
      "maximum recursion depth exceeded while decoding a JSON array from a unicode string"
  | tooDeep .object =>
      "maximum recursion depth exceeded while decoding a JSON object from a unicode string"

/-- Most causes name a line, a column and an offset. -/
def Cause.hasPlace : Cause → Bool
  | tooManyDigits _ => false
  | tooDeep _ => false
  | _ => true

def Failure.message (text : List Char) (failure : Failure) : String :=
  if failure.cause.hasPlace then
    let offset := text.length - failure.remaining
    let before := text.take offset
    let line := before.count '\n' + 1
    let column := (before.reverse.takeWhile (· != '\n')).length + 1
    failure.cause.text ++ ": line " ++ toString line ++ " column " ++ toString column ++
      " (char " ++ toString offset ++ ")"
  else failure.cause.text

end MobileAudit.Json
