import MobileAudit.Document.Show
import MobileAudit.Json.Failure

namespace MobileAudit.Check

/-! What is wrong with data that should have a given shape. -/

inductive Flaw where
  | missing
  | notText
  | notInteger
  | unreadableInteger
  | oversizedInteger
  | fractionalInteger
  | notFinite
  | notTruth
  | unreadableTruth
  | notOneOf (choices : List String)
  | notRecord (name : String)
  | notList
  | notMapping
  | below (least : Int)
  | rejected (reason : String)
deriving DecidableEq

/-- Choices in quotes, the last one after the word "or". -/
def listChoices (choices : List String) : String :=
  match choices.reverse with
  | [] => ""
  | [only] => Text.quoted only
  | last :: rest =>
      Text.joinTexts ", " (rest.reverse.map Text.quoted) ++ " or " ++ Text.quoted last

namespace Flaw

def code : Flaw → String
  | missing => "missing"
  | notText => "string_type"
  | notInteger => "int_type"
  | unreadableInteger => "int_parsing"
  | oversizedInteger => "int_parsing_size"
  | fractionalInteger => "int_from_float"
  | notFinite => "finite_number"
  | notTruth => "bool_type"
  | unreadableTruth => "bool_parsing"
  | notOneOf _ => "enum"
  | notRecord _ => "model_type"
  | notList => "list_type"
  | notMapping => "dict_type"
  | below _ => "greater_than_equal"
  | rejected _ => "value_error"

def message : Flaw → String
  | missing => "Field required"
  | notText => "Input should be a valid string"
  | notInteger => "Input should be a valid integer"
  | unreadableInteger => "Input should be a valid integer, unable to parse string as an integer"
  | oversizedInteger => "Unable to parse input string as an integer, exceeded maximum size"
  | fractionalInteger =>
      "Input should be a valid integer, got a number with a fractional part"
  | notFinite => "Input should be a finite number"
  | notTruth => "Input should be a valid boolean"
  | unreadableTruth => "Input should be a valid boolean, unable to interpret input"
  | notOneOf choices => "Input should be " ++ listChoices choices
  | notRecord name => "Input should be a valid dictionary or instance of " ++ name
  | notList => "Input should be a valid list"
  | notMapping => "Input should be a valid dictionary"
  | below least => "Input should be greater than or equal to " ++ toString least
  | rejected reason => "Value error, " ++ reason

end Flaw

/-- A flaw at a place, given by the names and numbers that lead to it. -/
structure Problem where
  place : List String
  flaw : Flaw
deriving DecidableEq

namespace Problem

def here (flaw : Flaw) : Problem := ⟨[], flaw⟩

def under (step : String) (problem : Problem) : Problem :=
  { problem with place := step :: problem.place }

def placeText (problem : Problem) : String := Text.joinTexts "." problem.place

def line (problem : Problem) : String := problem.placeText ++ ": " ++ problem.flaw.message

end Problem

/-- A breakdown of the check itself, which no list of problems reports. -/
inductive Breakdown where
  | notNumeric (kind : String)
  | infinite
  | notIterable (kind : String)
  | keyNotText
  | notPair (kind : String)
  | notCallable (kind : String)
  | unwritten
  | tooDeep (container : Json.Container)
deriving DecidableEq

def Breakdown.message : Breakdown → String
  | notNumeric kind =>
      "int() argument must be a string, a bytes-like object or a real number, not '" ++ kind ++ "'"
  | infinite => "cannot convert float infinity to integer"
  | notIterable kind => "'" ++ kind ++ "' object is not iterable"
  | keyNotText => "keywords must be strings"
  | notPair kind => "cannot unpack non-iterable " ++ kind ++ " object"
  | notCallable kind => "'" ++ kind ++ "' object is not callable"
  | unwritten => Number.unwrittenText
  | tooDeep container => (Json.Cause.tooDeep container).text

end MobileAudit.Check
