import MobileAudit.Pattern.Match

namespace MobileAudit.Secret

/-! Shapes of known tokens, and shapes of long values that are no credentials. -/

open Pattern

def digits : CharSet := .range '0' '9'

def letters : CharSet := CharSet.upper ∪ CharSet.lower

def alphanumerics : CharSet := letters ∪ digits

def tokenChars : CharSet := alphanumerics ∪ CharSet.ofChars "_-"

/-- A signed web token: header, payload and signature. -/
def webToken : Pattern :=
  lit "eyJ" ++ (tokenChars.atLeast 5 ++ (lit "." ++ (tokenChars.atLeast 5 ++
    (lit "." ++ tokenChars.atLeast 5))))

def codeHostToken : Pattern :=
  lit "gh" ++ (.set (.ofChars "pousr") ++ (lit "_" ++ alphanumerics.atLeast 36))

def paymentKey : Pattern :=
  .set (.ofChars "sr") ++ (lit "k_" ++ (words ["live", "test"] ++
    (lit "_" ++ alphanumerics.atLeast 24)))

def cloudKeyId : Pattern :=
  words ["AKIA", "ASIA"] ++ (digits ∪ CharSet.upper).exactly 16

def mapsKey : Pattern :=
  lit "AIza" ++ (digits ∪ letters ∪ CharSet.ofChars "_-").exactly 35

def chatToken : Pattern :=
  lit "xox" ++ (.set (.ofChars "abprs") ++ (lit "-" ++
    (digits ∪ letters ∪ CharSet.ofChars "-").atLeast 10))

def tokenShapes : List Pattern :=
  [webToken, codeHostToken, paymentKey, cloudKeyId, mapsKey, chatToken]

/-- The shape takes up a whole value. -/
def whole (shape : Pattern) : Pattern :=
  .textStart ++ (shape ++ .textEnd)

/-- The shape stands inside a value, not touched by further token characters. -/
def embedded (shape : Pattern) : Pattern :=
  .notAfter tokenChars ++ (shape ++ .notBefore (.set tokenChars))

def hexDigits : CharSet := digits ∪ CharSet.range 'a' 'f' ∪ CharSet.range 'A' 'F'

def uri : Pattern :=
  .textStart ++ (.set letters ++ ((letters ∪ digits ∪ CharSet.ofChars "+.-").many ++ lit "://"))

def path : Pattern :=
  .textStart ++ ((CharSet.one '.').atMost 2 ++ lit "/" <|> lit "~/")

def uniqueId : Pattern :=
  .textStart ++ (hexDigits.exactly 8 ++ (lit "-" ++ (hexDigits.exactly 4 ++ (lit "-" ++
    (hexDigits.exactly 4 ++ (lit "-" ++ (hexDigits.exactly 4 ++ (lit "-" ++
      (hexDigits.exactly 12 ++ .textEnd)))))))))

def versionNumber : Pattern :=
  .textStart ++ ((CharSet.one 'v').atMost 1 ++ (CharSet.digit.some ++ (lit "." ++
    (CharSet.digit.some ++ (lit "." ++ CharSet.digit.some)))))

def mailAddress : Pattern :=
  let part := (CharSet.one '@' ∪ CharSet.space).except.some
  .textStart ++ (part ++ (lit "@" ++ (part ++ (lit "." ++ (letters.atLeast 2 ++ .textEnd)))))

def importName : Pattern :=
  .textStart ++ (lit "@" ++ ((CharSet.word ∪ CharSet.one '-').some ++ (lit "/" ++
    ((CharSet.word ∪ CharSet.ofChars "./-").some ++ .textEnd))))

def harmlessShapes : List Pattern :=
  [uri, path, uniqueId, versionNumber, mailAddress, importName]

end MobileAudit.Secret
