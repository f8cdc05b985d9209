import MobileAudit.Console.ColorName
import MobileAudit.Number.Read

namespace MobileAudit.Console

/-! Styles and their normal form, in which styles with the same effect have the same text. -/

structure Style where
  /-- Attributes that are turned on or off. -/
  switches : List (String × Bool) := []
  color : Option (List Char) := none
  background : Option (List Char) := none
  link : Option (List Char) := none

namespace Style

/-- The attributes in the order in which they are written, with their short names. -/
def attributes : List (String × List String) :=
  [("bold", ["bold", "b"]), ("dim", ["dim", "d"]), ("italic", ["italic", "i"]),
    ("underline", ["underline", "u"]), ("blink", ["blink"]), ("blink2", ["blink2"]),
    ("reverse", ["reverse", "r"]), ("conceal", ["conceal", "c"]), ("strike", ["strike", "s"]),
    ("underline2", ["underline2", "uu"]), ("frame", ["frame"]), ("encircle", ["encircle"]),
    ("overline", ["overline", "o"])]

def attribute? (word : List Char) : Option String :=
  (attributes.find? fun (_, names) => names.contains (String.ofList word)).map (·.1)

/-- What stands between an opening and a closing text. -/
def between? (opening closing : String) (word : List Char) : Option (List Char) :=
  let inner := (word.drop opening.length).dropLast
  if word == opening.toList ++ inner ++ closing.toList then some inner else none

def isHexColor : List Char → Bool
  | '#' :: digits =>
      digits.length == 6 && digits.all fun c => Text.isAsciiDigit c || ('a' ≤ c && c ≤ 'f')
  | _ => false

def isNumberedColor (word : List Char) : Bool :=
  (between? "color(" ")" word).any fun digits =>
    !digits.isEmpty && digits.length ≤ 3 && digits.all Text.isAsciiDigit &&
      (Number.convert? digits).any (· ≤ 255)

/-- The three parts of a mixed colour, of which some may be empty. -/
def mixedParts? (word : List Char) : Option (List (List Char)) :=
  ((between? "rgb(" ")" word).map (Text.splitOn ',')).filter fun parts =>
    parts.length == 3 && parts.all (·.all Text.isDecimal)

def isMixedColor (word : List Char) : Bool :=
  (mixedParts? word).any (·.all fun part => (Number.convert? part).any (· ≤ 255))

inductive Fault where
  | unknown
  /-- A part of a mixed colour has no digits. -/
  | emptyPart

def readColor (word : List Char) : Except Fault (List Char) :=
  let word := Text.lowerChars word
  if (mixedParts? word).any (·.contains []) then .error .emptyPart
  else if word == "default".toList ||
      (Text.tableItems colorNames).contains (String.ofList word) ||
      isHexColor word || isNumberedColor word || isMixedColor word then
    .ok word
  else .error .unknown

def turn (style : Style) (name : String) (on : Bool) : Style :=
  { style with
    switches := (name, on) :: style.switches.filter fun (other, _) => other != name }

def readWords (style : Style) : List (List Char) → Except Fault Style
  | [] => .ok style
  | word :: rest =>
      let lower := Text.lowerChars word
      if lower == "on".toList then
        match rest with
        | color :: rest => do
            readWords { style with background := some (← readColor color) } rest
        | [] => .error .unknown
      else if lower == "not".toList then
        match rest with
        | word :: rest =>
            match attribute? word with
            | some name => readWords (style.turn name false) rest
            | none => .error .unknown
        | [] => .error .unknown
      else if lower == "link".toList then
        match rest with
        | target :: rest => readWords { style with link := some target } rest
        | [] => .error .unknown
      else
        match attribute? lower with
        | some name => readWords (style.turn name true) rest
        | none => do readWords { style with color := some (← readColor lower) } rest

def ofText (text : List Char) : Except Fault Style :=
  readWords {} (if Text.trim text == "none".toList then [] else Text.fields text)

/-- The words of a style in their order; a style without effect is called so. -/
def text (style : Style) : List Char :=
  let switches := attributes.filterMap fun (name, _) =>
    (style.switches.lookup name).map fun on => (if on then name else "not " ++ name).toList
  let words := switches ++ style.color.toList ++
    (style.background.map ("on ".toList ++ ·)).toList ++
    (style.link.map ("link ".toList ++ ·)).toList
  if words.isEmpty then "none".toList else Text.joinWith [' '] words

end Style

/-- The normal form of what may be a style; other texts are trimmed and put into lower case.  There
is none if a mixed colour lacks a part. -/
def normalForm? (text : List Char) : Option (List Char) :=
  match Style.ofText text with
  | .ok style => some style.text
  | .error .unknown => some (Text.lowerChars (Text.trim text))
  | .error .emptyPart => none

end MobileAudit.Console
