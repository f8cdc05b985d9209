import MobileAudit.Rule.Basic

namespace MobileAudit

/-! Parsers of source files, which are supplied from outside. -/

inductive ParserAnswer where
  | tree (description : String)
  | rejected (reason : String)
  | failure (crash : Crash)
deriving DecidableEq

/-- A parser takes the path and the text of a source file. -/
abbrev SourceParser := String → String → ParserAnswer

namespace SourceParser

def absentReason : String := "no source parser configured"

/-- The parser that knows no language. -/
def absent : SourceParser := fun _ _ => .rejected absentReason

end SourceParser

end MobileAudit
