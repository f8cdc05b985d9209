import MobileAudit.Rule.Basic
import MobileAudit.Secret.Judgement
import MobileAudit.Surroundings.Form

namespace MobileAudit.Rule

/-! String literals in source code that look like credentials. -/

open Pattern

def sourceTypes : List String := [".js", ".jsx", ".ts", ".tsx"]

def sourceSecretCard : RuleCard where
  id := "HARDCODED_SECRET"
  description := "Hardcoded secret or API key in source code"
  severity := .high
  fileTypes := sourceTypes

def sourceSecretAdvice : String :=
  "Move the secret to a backend service or inject it at build time " ++
    "from a secure store; never ship credentials in the app bundle."

/-- A literal of one line: a quote, escapes and other characters, and the same quote. -/
def stringLiteral : Pattern :=
  .group 1 (.set (.ofChars "\"'`")) ++
    (.group 2 (star (lit "\\" ++ .set CharSet.notNewline <|>
      .notBefore (.again 1) ++ .set (CharSet.ofChars "\\\n").except)) ++ .again 1)

/-- Where a literal's text hides a secret, counted from the start of the text. -/
def secretIn? (text : List Char) : Option Nat :=
  if Text.hasPiece ['$', '\x7b'] text then none
  else if Secret.looksLikeSecret text then some 0
  else Secret.embeddedAt? text

def secretsInLine (line : List Char) : List Nat :=
  if Surroundings.isFormLine line then []
  else (stringLiteral.findAll line).filterMap fun m => do
    let literal ← m.group? 2
    let inner ← secretIn? literal.text
    return literal.start + inner

/-- The offsets of secrets in lines that start at the given offset. -/
def secretsInLines (offset : Nat) : List (List Char) → List Nat
  | [] => []
  | line :: rest =>
      (secretsInLine line).map (offset + ·) ++ secretsInLines (offset + line.length + 1) rest

def detectSourceSecrets (context : FileContext) : List Finding :=
  (secretsInLines 0 (Text.lines context.content.toList)).map fun offset =>
    sourceSecretCard.finding context offset sourceSecretAdvice

def sourceSecret : Rule := sourceSecretCard.toRule detectSourceSecrets

end MobileAudit.Rule
