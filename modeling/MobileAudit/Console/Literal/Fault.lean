import MobileAudit.Console.Literal.Formatted
import MobileAudit.Text.Quoted

namespace MobileAudit.Literal

/-! Why a text cannot be read as a literal. -/

inductive Fault where
  /-- The text is cut by a character without a meaning. -/
  | nullCharacter
  | strangeCharacter (c : Char)
  | strayBackslash
  | unended (long : Bool) (line : Nat)
  | unmatched (closing : Char)
  /-- The line of the opening bracket is given if it is another one. -/
  | mismatched (closing opening : Char) (line : Option Nat)
  | neverClosed (opening : Char)
  | badNumber (kind : String)
  | badDigit (digit : Char) (kind : String)
  | leadingZeros
  | bytesNotAscii
  | mixedTexts
  /-- An escape from one place to another in a text. -/
  | badEscape (first last : Nat) (reason : String)
  | badByteEscape (place : Nat)
  | missingComma
  | missingElse
  | missingColon
  | missingValue
  | missingParentheses (name : List Char)
  | starredValue
  | starAlone
  | starredGroup
  | doubleStarredGroup
  | equalsSign
  | equalsSignAfter (kind : String)
  | assigned (kind : String)
  | assignedTarget (kind : String)
  | assignedArgument
  | bareGenerator
  | lateArgument (afterUnpacking : Bool)
  | lateUnpacking
  | braces (fault : BraceFault)
  /-- A fault of an expression between braces; braces within braces report it once. -/
  | inBraces (fault : Fault)
  /-- Any other breach of the grammar. -/
  | unreadable
deriving DecidableEq

namespace Fault

/-- The code of a character in at least four digits. -/
def codeText (c : Char) : String :=
  let digits := (Text.hexDigits 6 c.toNat).map Char.toUpper
  let extra := if c.toNat < 0x10000 then 2 else if c.toNat < 0x100000 then 1 else 0
  "U+" ++ String.ofList (digits.drop extra)

def characterText (c : Char) : String :=
  if Text.isPrintable c then
    "invalid character '" ++ String.singleton c ++ "' (" ++ codeText c ++ ")"
  else "invalid non-printable character " ++ codeText c

def message : Fault → String
  | nullCharacter => "source code string cannot contain null bytes"
  | strangeCharacter c => characterText c
  | strayBackslash => "unexpected character after line continuation character"
  | unended long line =>
      "unterminated " ++ (if long then "triple-quoted " else "") ++
        "string literal (detected at line " ++ toString line ++ ")"
  | unmatched closing => "unmatched '" ++ String.singleton closing ++ "'"
  | mismatched closing opening line =>
      "closing parenthesis '" ++ String.singleton closing ++
        "' does not match opening parenthesis '" ++ String.singleton opening ++ "'" ++
        ((line.map fun line => " on line " ++ toString line).getD "")
  | neverClosed opening => "'" ++ String.singleton opening ++ "' was never closed"
  | badNumber kind => "invalid " ++ kind ++ " literal"
  | badDigit digit kind =>
      "invalid digit '" ++ String.singleton digit ++ "' in " ++ kind ++ " literal"
  | leadingZeros =>
      "leading zeros in decimal integer literals are not permitted; " ++
        "use an 0o prefix for octal integers"
  | bytesNotAscii => "bytes can only contain ASCII literal characters"
  | mixedTexts => "cannot mix bytes and nonbytes literals"
  | badEscape first last reason =>
      "(unicode error) 'unicodeescape' codec can't decode bytes in position " ++
        toString first ++ "-" ++ toString last ++ ": " ++ reason
  | badByteEscape place => "(value error) invalid \\x escape at position " ++ toString place
  | missingComma => "invalid syntax. Perhaps you forgot a comma?"
  | missingElse => "expected 'else' after 'if' expression"
  | missingColon => "':' expected after dictionary key"
  | missingValue => "expression expected after dictionary key and ':'"
  | missingParentheses name =>
      let name := String.ofList name
      "Missing parentheses in call to '" ++ name ++ "'. Did you mean " ++ name ++ "(...)?"
  | starredValue => "cannot use a starred expression in a dictionary value"
  | starAlone => "Invalid star expression"
  | starredGroup => "cannot use starred expression here"
  | doubleStarredGroup => "cannot use double starred expression here"
  | equalsSign => "invalid syntax. Maybe you meant '==' or ':=' instead of '='?"
  | equalsSignAfter kind =>
      "cannot assign to " ++ kind ++ " here. Maybe you meant '==' instead of '='?"
  | assigned kind => "cannot use assignment expressions with " ++ kind
  | assignedTarget kind => "cannot assign to " ++ kind
  | bareGenerator => "Generator expression must be parenthesized"
  | assignedArgument => "expression cannot contain assignment, perhaps you meant \"==\"?"
  | lateArgument afterUnpacking =>
      "positional argument follows keyword argument"
        ++ (if afterUnpacking then " unpacking" else "")
  | lateUnpacking => "iterable argument unpacking follows keyword argument unpacking"
  | braces fault => fault.message
  | inBraces inner@(inBraces _) => inner.message
  | inBraces fault => "f-string: " ++ fault.message
  | unreadable => "invalid syntax"

/-- A fault of an expression between braces; where tokens are at fault, that says it all. -/
def between : Fault → Fault
  | strangeCharacter c => strangeCharacter c
  | unended long line => unended long line
  | unmatched closing => unmatched closing
  | mismatched closing opening line => mismatched closing opening line
  | badNumber kind => badNumber kind
  | badDigit digit kind => badDigit digit kind
  | leadingZeros => leadingZeros
  | fault => inBraces fault

end Fault

end MobileAudit.Literal
