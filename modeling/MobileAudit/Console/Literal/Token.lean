import MobileAudit.Console.Literal.Fault
import MobileAudit.Text.Case

namespace MobileAudit.Literal

/-! The words, numbers, texts and signs that literals are made of. -/

inductive Lexeme where
  | name (text : List Char)
  | number (imaginary : Bool)
  /-- A text with the letters in front of it and what stands between its quotes. -/
  | text (letters body : List Char)
  | sign (text : String)
  | lineEnd
deriving DecidableEq

/-- A lexeme with the number of brackets that are open after it. -/
structure Token where
  lexeme : Lexeme
  level : Nat

/-- The tokens of a text, and what is wrong at its end if something is. -/
structure Tokens where
  all : List Token
  ending : Option Fault := none

/-! Numbers. -/

/-- Characters that names are cut by: letters, digits, the underscore, and all beyond ASCII. -/
def inName (c : Char) : Bool := Text.isAsciiAlnum c || c == '_' || 0x80 ≤ c.toNat

/-- Digits after a digit, where single underscores may stand between them. -/
def decimalTail : List Char → Except Fault (List Char)
  | '_' :: c :: rest =>
      if Text.isAsciiDigit c then decimalTail rest else .error (.badNumber "decimal")
  | ['_'] => .error (.badNumber "decimal")
  | c :: rest => if Text.isAsciiDigit c then decimalTail rest else .ok (c :: rest)
  | [] => .ok []

/-- Whether a word that may follow a number directly comes next. -/
def wordFollows (rest : List Char) : Bool :=
  [['i', 'f'], ['i', 'n'], ['i', 's']].any (·.isPrefixOf rest) ||
    ["and", "else", "for", "or", "not"].any fun word =>
      word.toList.isPrefixOf rest && !(rest.drop word.length).head?.any inName

/-- A number ends before a character that could not go on with a name in ASCII. -/
def numberEnd (kind : String) (rest : List Char) : Except Fault (List Char) :=
  if !wordFollows rest && rest.head?.any fun c => Text.isAsciiAlnum c || c == '_' then
    .error (.badNumber kind)
  else .ok rest

/-- Digits of a base; `needed` says that a digit has to come next. -/
def baseDigits (isDigit : Char → Bool) (fault : Option Char → Fault) :
    Bool → List Char → Except Fault (List Char)
  | needed, [] => if needed then .error (fault none) else .ok []
  | needed, c :: rest =>
      if isDigit c then baseDigits isDigit fault false rest
      else if needed then .error (fault (some c))
      else if c == '_' then baseDigits isDigit fault true rest
      else .ok (c :: rest)

/-- A number of a base other than ten, after the letter of the base. -/
def basedNumber (kind : String) (isDigit : Char → Bool) (text : List Char) :
    Except Fault (List Char) := do
  let fault : Option Char → Fault := fun c =>
    match c.filter fun c => kind != "hexadecimal" && Text.isAsciiDigit c with
    | some digit => .badDigit digit kind
    | none => .badNumber kind
  let start := match text with
    | '_' :: rest => rest
    | _ => text
  let rest ← baseDigits isDigit fault true start
  match rest.head?.filter Text.isAsciiDigit with
  | some digit => throw (.badDigit digit kind)
  | none => numberEnd kind rest

/-- Whether a number is imaginary, and the text after it. -/
abbrev NumberRead := Except Fault (Bool × List Char)

/-- The end of a decimal number: perhaps a letter that makes it imaginary. -/
def decimalEnd (rest : List Char) : NumberRead :=
  match rest with
  | c :: after =>
      if c == 'j' || c == 'J' then (numberEnd "imaginary" after).map (true, ·)
      else (numberEnd "decimal" rest).map (false, ·)
  | [] => .ok (false, [])

/-- The power of ten of a decimal number, if it has one, and its end. -/
def exponentEnd (rest : List Char) : NumberRead :=
  match rest with
  | c :: after =>
      if c == 'e' || c == 'E' then
        match after with
        | s :: digits =>
            if s == '+' || s == '-' then
              if digits.head?.any Text.isAsciiDigit then do decimalEnd (← decimalTail digits)
              else .error (.badNumber "decimal")
            else if Text.isAsciiDigit s then do decimalEnd (← decimalTail digits)
            else (numberEnd "decimal" rest).map (false, ·)
        | [] => (numberEnd "decimal" rest).map (false, ·)
      else decimalEnd rest
  | [] => .ok (false, [])

/-- What follows the whole part of a decimal number. -/
def fractionEnd (rest : List Char) : NumberRead :=
  match rest with
  | '.' :: after =>
      if after.head?.any Text.isAsciiDigit then do exponentEnd (← decimalTail after)
      else exponentEnd after
  | _ => exponentEnd rest

/-- Zeros at the start of a number, where single underscores may stand between them. -/
def zeros : List Char → Except Fault (List Char)
  | '_' :: c :: rest =>
      if c == '0' then zeros rest
      else if Text.isAsciiDigit c then .ok (c :: rest)
      else .error (.badNumber "decimal")
  | ['_'] => .error (.badNumber "decimal")
  | '0' :: rest => zeros rest
  | rest => .ok rest

/-- A number that starts with a zero; only zeros may follow unless it has a fraction. -/
def zeroNumber (text : List Char) : NumberRead := do
  let rest ← zeros text
  let hasDigits := rest.head?.any Text.isAsciiDigit
  let rest ← if hasDigits then decimalTail rest else pure rest
  if hasDigits && !rest.head?.any fun c => ".eEjJ".toList.contains c then throw .leadingZeros
  fractionEnd rest

def readNumber (text : List Char) : NumberRead :=
  match text with
  | '0' :: c :: rest =>
      if c == 'x' || c == 'X' then (basedNumber "hexadecimal" Text.isHexDigit rest).map (false, ·)
      else if c == 'o' || c == 'O' then
        (basedNumber "octal" (fun d => '0' ≤ d && d ≤ '7') rest).map (false, ·)
      else if c == 'b' || c == 'B' then
        (basedNumber "binary" (fun d => d == '0' || d == '1') rest).map (false, ·)
      else zeroNumber (c :: rest)
  | ['0'] => .ok (false, [])
  | '.' :: _ => fractionEnd text
  | _ => do fractionEnd (← decimalTail text)

/-! Texts and names. -/

/-- What stands before the closing quote, and the text after it; a backslash keeps the next
character. -/
def shortBody (quote : Char) : List Char → Option (List Char × List Char)
  | [] => none
  | ['\\'] => none
  | '\\' :: c :: rest => (shortBody quote rest).map fun (body, rest) => ('\\' :: c :: body, rest)
  | c :: rest =>
      if c == quote then some ([], rest)
      else if c == '\n' then none
      else (shortBody quote rest).map fun (body, rest) => (c :: body, rest)

def longBody (quote : Char) : List Char → Option (List Char × List Char)
  | [] => none
  | ['\\'] => none
  | '\\' :: c :: rest => (longBody quote rest).map fun (body, rest) => ('\\' :: c :: body, rest)
  | c :: rest =>
      if (c :: rest).take 3 == [quote, quote, quote] then some ([], rest.drop 2)
      else (longBody quote rest).map fun (body, rest) => (c :: body, rest)

/-- The line on which the end of a text between quotes is missed. -/
def shortEnd : Nat → List Char → Nat
  | line, '\\' :: c :: rest => shortEnd (if c == '\n' then line + 1 else line) rest
  | line, c :: rest => if c == '\n' then line else shortEnd line rest
  | line, [] => line

def readText (line : Nat) (quote : Char) (text : List Char) :
    Except Fault (List Char × List Char) :=
  if text.take 3 == [quote, quote, quote] then
    match longBody quote (text.drop 3) with
    | some read => .ok read
    | none => .error (.unended true (line + text.count '\n'))
  else
    match shortBody quote (text.drop 1) with
    | some read => .ok read
    | none => .error (.unended false (shortEnd line (text.drop 1)))

def textLetters : List String := ["b", "u", "r", "f", "br", "rb", "fr", "rf"]

/-- The first character of a name that no name can have there. -/
def badNameChar? : List Char → Option Char
  | [] => none
  | c :: rest => if !Text.isNameStart c then some c else rest.find? (!Text.isNameRest ·)

/-! Signs. -/

def longSigns : List String :=
  ["**=", "//=", ">>=", "<<=", "...", "!=", "%=", "&=", "**", "*=", "+=", "-=", "->", "//", "/=",
    ":=", "<<", "<=", "<>", "==", ">=", ">>", "@=", "^=", "|="]

/-- The longest sign that a text begins with. -/
def signAt (c : Char) (rest : List Char) : String :=
  (longSigns.find? fun sign => sign.toList.isPrefixOf (c :: rest)).getD (String.singleton c)

def closingOf : Char → Char
  | '(' => ')'
  | '[' => ']'
  | _ => '\x7d'

/-- Closes a bracket; `opened` are those that are open with their lines, the latest first. -/
def close (line : Nat) (closing : Char) :
    List (Char × Nat) → Except Fault (List (Char × Nat))
  | [] => .error (.unmatched closing)
  | (opening, there) :: rest =>
      if closingOf opening == closing then .ok rest
      else .error (.mismatched closing opening (if there == line then none else some there))

/-! All tokens. -/

/-- A place in a text with what precedes it. -/
structure Scan where
  rest : List Char
  line : Nat := 1
  opened : List (Char × Nat) := []
  /-- The tokens so far, the last one first. -/
  tokens : List Token := []

namespace Scan

def push (scan : Scan) (lexeme : Lexeme) (rest : List Char) : Scan :=
  { scan with rest, tokens := ⟨lexeme, scan.opened.length⟩ :: scan.tokens }

/-- Takes a line break, which ends a line unless a bracket is open or the line is empty. -/
def lineBreak (scan : Scan) (rest : List Char) : Scan :=
  let isEmpty := scan.tokens.head?.all (·.lexeme == .lineEnd)
  let next := if scan.opened.isEmpty && !isEmpty then scan.push .lineEnd rest
    else { scan with rest }
  { next with line := scan.line + 1 }

def textFrom (scan : Scan) (letters : List Char) (quote : Char) (text : List Char) :
    Except Fault Scan := do
  let (body, rest) ← readText scan.line quote text
  let taken := text.take (text.length - rest.length)
  return { scan.push (.text letters body) rest with line := scan.line + taken.count '\n' }

/-- Takes a name, or the letters in front of a text with the text. -/
def word (scan : Scan) (text : List Char) : Except Fault Scan :=
  let name := text.takeWhile inName
  let rest := text.drop name.length
  let letters := Text.lowerChars name
  match rest.head?.filter fun c => c == '\'' || c == '"' with
  | some quote =>
      if textLetters.contains (String.ofList letters) then scan.textFrom letters quote rest
      else named name rest
  | none => named name rest
where
  named (name rest : List Char) : Except Fault Scan :=
    match badNameChar? name with
    | some c => .error (.strangeCharacter c)
    | none => .ok (scan.push (.name name) rest)

def sign (scan : Scan) (c : Char) (rest : List Char) : Except Fault Scan := do
  let text := signAt c rest
  let rest := rest.drop (text.length - 1)
  let opened ←
    if c == '(' || c == '[' || c == '\x7b' then pure ((c, scan.line) :: scan.opened)
    else if c == ')' || c == ']' || c == '\x7d' then close scan.line c scan.opened
    else pure scan.opened
  return { scan with opened }.push (.sign text) rest

end Scan

def scanAll : Nat → Scan → Except Fault Tokens
  | 0, scan => .ok ⟨scan.tokens.reverse, none⟩
  | fuel + 1, scan =>
      match scan.rest with
      | [] => .ok ⟨scan.tokens.reverse, scan.opened.head?.map fun (c, _) => .neverClosed c⟩
      | c :: rest =>
          if c == ' ' || c == '\t' || c == '\x0c' then scanAll fuel { scan with rest }
          else if c == '\n' then scanAll fuel (scan.lineBreak rest)
          else if c == '#' then scanAll fuel { scan with rest := rest.dropWhile (· != '\n') }
          else if c == '\\' then
            match rest with
            | '\n' :: rest => scanAll fuel { scan with rest, line := scan.line + 1 }
            | _ => .ok ⟨scan.tokens.reverse, some .strayBackslash⟩
          else if Text.isAsciiDigit c || (c == '.' && rest.head?.any Text.isAsciiDigit) then do
            let (imaginary, rest) ← readNumber (c :: rest)
            scanAll fuel (scan.push (.number imaginary) rest)
          else if c == '\'' || c == '"' then do scanAll fuel (← scan.textFrom [] c (c :: rest))
          else if inName c then do scanAll fuel (← scan.word (c :: rest))
          else if !Text.isPrintable c then .error (.strangeCharacter c)
          else do scanAll fuel (← scan.sign c rest)

def tokens (text : List Char) : Except Fault Tokens :=
  if text.contains '\x00' then .error .nullCharacter
  else scanAll (text.length + 1) { rest := text }

end MobileAudit.Literal
