import MobileAudit.Pattern.Match

namespace MobileAudit.Surroundings

/-! Lines that handle form input or validation, and comments: names of credentials are at home
there. -/

open Pattern

def spaces : Pattern := CharSet.space.many

def wordChars : Pattern := CharSet.word.many

/-- A whole word followed by a sign, with blanks allowed between. -/
def wordThen (word sign : String) : Pattern :=
  .wordEdge ++ (lit word ++ (spaces ++ lit sign))

def stateHook : Pattern :=
  .wordEdge ++ (lit "useState" ++ (spaces ++ .set (.ofChars "<(")))

def stateSetter : Pattern :=
  .notAfter (CharSet.one '.' ∪ CharSet.word ∪ CharSet.one '$') ++
    (lit "set" ++ (.set CharSet.upper ++ (wordChars ++ (spaces ++ lit "("))))

def formLibrary : Pattern :=
  (Pattern.wordEdge ++ (lit "formik" ++ Pattern.wordEdge)).ignoringCase

def eventHandler : Pattern :=
  .wordEdge ++ (lit "handle" ++ (words ["Change", "Submit", "Blur"] ++ .wordEdge))

def schemaString : Pattern :=
  .wordEdge ++ (words ["yup", "zod", "z"] ++ (lit ".string" ++ (spaces ++ lit "(")))

def secureEntry : Pattern :=
  .wordEdge ++ (lit "secureTextEntry" ++ .wordEdge)

def validateCall : Pattern :=
  .wordEdge ++ (lit "validate" ++ (wordChars ++ (spaces ++ lit "(")))

def validationName : Pattern :=
  .wordEdge ++ (.set CharSet.lower ++ (wordChars ++
    (words ["Error", "Errors", "Validation", "Validator"] ++ .wordEdge)))

def commentLine : Pattern :=
  .textStart ++ (spaces ++
    oneOf [lit "//", lit "/*", lit "*" ++ (.set CharSet.space <|> .textEnd)])

def innerComment : Pattern :=
  lit "/*" ++ (CharSet.notNewline.manyShort ++ lit "*/")

def formPatterns : List Pattern :=
  [stateHook, stateSetter, wordThen "register" "(", wordThen "useForm" "(", formLibrary,
    eventHandler, schemaString, wordThen "placeholder" "=", wordThen "label" "=", secureEntry,
    wordThen "textContentType" "=", wordThen "autoComplete" "=", validateCall, validationName,
    commentLine, innerComment]

def isFormLine (line : List Char) : Bool :=
  formPatterns.any (·.occursIn line)

end MobileAudit.Surroundings
