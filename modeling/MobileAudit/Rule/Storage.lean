import MobileAudit.Rule.SourceSecret

namespace MobileAudit.Rule

/-! Sensitive values that are written to unencrypted storage. -/

open Pattern

def storageCard : RuleCard where
  id := "ASYNCSTORAGE_SENSITIVE_DATA"
  description := "Sensitive data stored in unencrypted AsyncStorage"
  severity := .high
  fileTypes := sourceTypes

def storageAdvice : String :=
  "Store tokens and credentials with react-native-keychain or " ++
    "expo-secure-store instead of AsyncStorage."

/-- A call that writes under a literal key. -/
def storageCall : Pattern :=
  let blanks := CharSet.space.many
  .wordEdge ++ (lit "AsyncStorage" ++ (blanks ++ (lit "." ++ (blanks ++
    (words ["setItem", "mergeItem"] ++ (blanks ++ (lit "(" ++ (blanks ++
      (.group 1 (.set (.ofChars "\"'`")) ++
        (.group 2 (CharSet.ofChars "\"'`\n").except.some ++ .again 1))))))))))

/-- The line around an offset, cut out at the nearest line breaks. -/
def lineAround (content : List Char) (offset : Nat) : List Char :=
  ((content.take offset).reverse.takeWhile (· != '\n')).reverse ++
    (content.drop offset).takeWhile (· != '\n')

def reportsStorage (content : List Char) (m : Match) : Bool :=
  Naming.isSensitive (String.ofList (m.groupText 2)) &&
    !Surroundings.isFormLine (lineAround content m.start)

def detectStorage (context : FileContext) : List Finding :=
  let content := context.content.toList
  ((storageCall.findAll content).filter (reportsStorage content)).map fun m =>
    storageCard.finding context m.start storageAdvice

def sensitiveStorage : Rule := storageCard.toRule detectStorage

end MobileAudit.Rule
