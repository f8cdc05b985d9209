import MobileAudit.Text.Split
import MobileAudit.Pattern.Match

namespace MobileAudit.Naming

/-! Names of variables, settings and storage keys: the words they are made of, and whether those
words speak of credentials or personal data. -/

open Pattern

/-- The end of a run of capitals that a capitalised word follows. -/
def acronymEdge : Pattern :=
  .group 1 CharSet.upper.some ++ .group 2 (.set CharSet.upper ++ .set CharSet.lower)

/-- A small letter or digit before a capital. -/
def camelEdge : Pattern :=
  .group 1 (.set (CharSet.lower ∪ CharSet.range '0' '9')) ++ .group 2 (.set CharSet.upper)

def separators : Pattern :=
  (CharSet.space ∪ CharSet.ofChars "_.-$").some

/-- Writes a match of two groups with a blank between them. -/
def apart (m : Match) : List Char :=
  m.groupText 1 ++ ' ' :: m.groupText 2

def pieces (name : List Char) : List (List Char) :=
  let spaced := camelEdge.replaceAll apart (acronymEdge.replaceAll apart name)
  (separators.splitBy spaced).filter (!·.isEmpty)

def segments (name : String) : List String :=
  (pieces name.toList).map fun piece => String.ofList (Text.lowerChars piece)

def sensitiveWords : List String :=
  ["password", "passwd", "pwd", "passcode", "passphrase",
    "token", "jwt", "bearer", "secret", "credential", "credentials",
    "apikey", "secretkey", "privatekey", "accesskey",
    "ssn", "creditcard", "cardnumber", "cvv", "email", "phonenumber"]

/-- Is a word, or a word joined with its successor, a sensitive one? -/
def mentionsSensitive : List String → Bool
  | [] => false
  | [word] => sensitiveWords.contains word
  | word :: next :: rest =>
      sensitiveWords.contains word || sensitiveWords.contains (word ++ next) ||
        mentionsSensitive (next :: rest)

def isSensitive (name : String) : Bool :=
  mentionsSensitive (segments name)

/-- Last words of names that belong to input handling rather than to data. -/
def displayWords : List String :=
  ["input", "field", "error", "message", "label", "placeholder"]

def isDisplayName (name : String) : Bool :=
  (segments name).getLast?.any displayWords.contains

end MobileAudit.Naming
