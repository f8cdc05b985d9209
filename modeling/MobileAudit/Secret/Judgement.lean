import MobileAudit.Naming
import MobileAudit.Secret.Entropy
import MobileAudit.Secret.Identifier

namespace MobileAudit.Secret

/-! Whether a value is probably a credential, and whether an assignment hardcodes one. -/

open Pattern

def repeatedChar : Pattern :=
  .textStart ++ (.group 1 (.set CharSet.notNewline) ++ (plus (.again 1) ++ .textEnd))

/-- Fewer than three tenths of the characters are distinct, where from 64 characters on the length
counts as 64. -/
def isRepetitive (value : List Char) : Bool :=
  repeatedChar.matchesStart value ||
    10 * value.eraseDups.length < 3 * min value.length 64

/-- How many of small letters, capitals, digits and symbols occur. -/
def classCount (value : List Char) : Nat :=
  [value.any Text.isLower, value.any Text.isUpper, value.any Text.isDigit,
    value.any (!Text.isAlnum ·)].count true

def hasTokenShape (value : List Char) : Bool :=
  tokenShapes.any fun shape => (whole shape).matchesStart value

/-- A value is a secret if it has the shape of a token, or if it has at least 20 characters of at
least three classes, no harmless shape, no identifier's look, little repetition and an entropy of at
least 3.5 bits. -/
def looksLikeSecret (value : List Char) : Bool :=
  let value := Text.trim value
  if value.isEmpty then false
  else if hasTokenShape value then true
  else if value.length < 20 then false
  else if harmlessShapes.any (·.matchesStart value) then false
  else if isRepetitive value then false
  else if readsAsIdentifier value then false
  else if classCount value < 3 then false
  else 3.5 ≤ entropy value

/-- The offset of the first token shape inside a value. -/
def embeddedAt? (value : List Char) : Option Nat :=
  (tokenShapes.filterMap fun shape => ((embedded shape).search value).map (·.start)).min?

def alphabets : List String :=
  ["abcdefghijklmnopqrstuvwxyz", "ABCDEFGHIJKLMNOPQRSTUVWXYZ", "0123456789"]

def holdsAlphabet (value : List Char) : Bool :=
  alphabets.any fun alphabet => Text.hasPiece alphabet.toList value

/-- Does giving this value to this name hardcode a secret? -/
def isHardcoded (name value : String) : Bool :=
  if name.isEmpty || value.isEmpty then false
  else if Naming.isDisplayName name then false
  else if holdsAlphabet value.toList then false
  else Naming.isSensitive name && looksLikeSecret value.toList

end MobileAudit.Secret
