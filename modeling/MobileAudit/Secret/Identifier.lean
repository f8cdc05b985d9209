import MobileAudit.Secret.Shape
import MobileAudit.Text.Split

namespace MobileAudit.Secret

/-! Values that read like ordinary identifiers or phrases. -/

open Pattern

def smallAlnum : CharSet := CharSet.lower ∪ digits

def largeAlnum : CharSet := CharSet.upper ∪ digits

def kebabCase : Pattern :=
  .textStart ++ (.set CharSet.lower ++ (smallAlnum.many ++
    (plus (lit "-" ++ smallAlnum.some) ++ .textEnd)))

def snakeCase : Pattern :=
  .textStart ++ (.set CharSet.lower ++ (smallAlnum.many ++
    (plus (lit "_" ++ smallAlnum.some) ++ .textEnd)))

def constantCase : Pattern :=
  .textStart ++ (.set CharSet.upper ++ (largeAlnum.many ++
    (star (lit "_" ++ largeAlnum.some) ++ .textEnd)))

def capitalWord : Pattern :=
  .set CharSet.upper ++ (CharSet.lower.atLeast 2 ++ smallAlnum.many)

def camelCase : Pattern :=
  .textStart ++ (.set CharSet.lower ++ (smallAlnum.many ++ (plus capitalWord ++ .textEnd)))

def pascalCase : Pattern :=
  .textStart ++ (plus capitalWord ++ .textEnd)

def plainWord : Pattern :=
  .textStart ++ (.set letters ++ (CharSet.lower.many ++ .textEnd))

def dotSegment : Pattern :=
  .set (letters ∪ CharSet.ofChars "_$") ++ (CharSet.word ∪ CharSet.ofChars "$-").many

def dotPath : Pattern :=
  .textStart ++ (dotSegment ++ (plus (lit "." ++ dotSegment) ++ .textEnd))

def namingStyles : List Pattern :=
  [kebabCase, snakeCase, constantCase, camelCase, pascalCase, plainWord]

/-- More than three tenths of the characters are digits. -/
def isDigitHeavy (value : List Char) : Bool :=
  3 * value.length < 10 * (value.filter Text.isDigit).length

/-- Short values, phrases of words of at most 24 characters, dot paths of segments of at most 32
and values in a common naming style read as identifiers; from 12 characters on a value with many
digits does not, unless it is a phrase. -/
def readsAsIdentifier (value : List Char) : Bool :=
  let value := Text.trim value
  if value.length ≤ 8 then true
  else
    let fields := Text.fields value
    if 1 < fields.length then fields.all (·.length ≤ 24)
    else if 12 ≤ value.length && isDigitHeavy value then false
    else if dotPath.matchesStart value then
      (Text.splitOn '.' value).all (·.length ≤ 32)
    else namingStyles.any (·.matchesStart value)

end MobileAudit.Secret
