import MobileAudit.Text.Split
import MobileAudit.Text.Table.CharName

namespace MobileAudit.Text

/-! Characters by their names. -/

def upperHex? (digits : List Char) : Option Nat :=
  digits.foldlM (fun n c =>
    if isAsciiDigit c then some (n * 16 + (c.toNat - '0'.toNat))
    else if 'A' ≤ c && c ≤ 'F' then some (n * 16 + (c.toNat - 'A'.toNat + 10))
    else none) 0

/-- Characters whose names are made of a common beginning and their codes. -/
structure CodedNames where
  start : String
  runs : List (Nat × Nat)

def unifiedIdeographs : CodedNames where
  start := "CJK UNIFIED IDEOGRAPH-"
  runs :=
    [(0x3400, 0x4dbf), (0x4e00, 0x9fff), (0x20000, 0x2a6df), (0x2a700, 0x2b738),
      (0x2b740, 0x2b81d), (0x2b820, 0x2cea1), (0x2ceb0, 0x2ebe0), (0x30000, 0x3134a)]

def compatibilityIdeographs : CodedNames where
  start := "CJK COMPATIBILITY IDEOGRAPH-"
  runs := [(0xf900, 0xfa6d), (0xfa70, 0xfad9), (0x2f800, 0x2fa1d)]

def khitanCharacters : CodedNames where
  start := "KHITAN SMALL SCRIPT CHARACTER-"
  runs := [(0x18b00, 0x18cd5)]

def nushuCharacters : CodedNames where
  start := "NUSHU CHARACTER-"
  runs := [(0x1b170, 0x1b2fb)]

def CodedNames.code? (names : CodedNames) (name : List Char) : Option Nat := do
  let digits := name.drop names.start.length
  guard (names.start.toList.isPrefixOf name && (digits.length == 4 || digits.length == 5))
  let code ← upperHex? digits
  guard (names.runs.any fun (first, last) => first ≤ code && code ≤ last)
  return code

/-- The parts of the names of syllables: leading sounds, vowels and closing sounds. -/
def syllableParts : List (List String) :=
  [["G", "GG", "N", "D", "DD", "R", "M", "B", "BB", "S", "SS", "", "J", "JJ", "C", "K", "T", "P",
      "H"],
    ["A", "AE", "YA", "YAE", "EO", "E", "YEO", "YE", "O", "WA", "WAE", "OE", "YO", "U", "WEO",
      "WE", "WI", "YU", "EU", "YI", "I"],
    ["", "G", "GG", "GS", "N", "NJ", "NH", "D", "L", "LG", "LM", "LB", "LS", "LT", "LP", "LH", "M",
      "B", "BS", "S", "SS", "NG", "J", "C", "K", "T", "P", "H"]]

/-- The place of a syllable in the order of its parts. -/
def syllableAt? : List (List String) → Nat → List Char → Option Nat
  | [], place, name => if name.isEmpty then some place else none
  | sounds :: rest, place, name =>
      sounds.zipIdx.findSome? fun (sound, i) =>
        if sound.toList.isPrefixOf name then
          syllableAt? rest (place * sounds.length + i) (name.drop sound.length)
        else none

def syllableNamed? (name : List Char) : Option Nat :=
  let start := "HANGUL SYLLABLE ".toList
  if start.isPrefixOf name then
    (syllableAt? syllableParts 0 (name.drop start.length)).map (0xac00 + ·)
  else none

/-- The words of a name that a table writes after another name. -/
def nameAfter (before : List (List Char)) : List Char → List (List Char)
  | [] => before
  | common :: rest => before.take (common.toNat - '0'.toNat) ++ splitOn ' ' rest

/-- Looks for a name among the items of a table, from a code point on and after another name. -/
def codeAmong? (name : List (List Char)) : Nat → List (List Char) → List String → Option Nat
  | _, _, [] => none
  | code, before, item :: rest =>
      match item.toList with
      | '=' :: digits => codeAmong? name ((upperHex? digits).getD code) before rest
      | text =>
          let here := nameAfter before text
          if here == name then some code else codeAmong? name (code + 1) here rest

def furtherCode? (name : List Char) : Option Nat :=
  (tableItems Table.furtherNames).findSome? fun item =>
    if item.toList.takeWhile (· != '=') == name then
      upperHex? ((item.toList.dropWhile (· != '=')).drop 1)
    else none

/-- The code point of a name.  Only unified ideographs and syllables have to be named in upper
case. -/
def codeNamed? (name : List Char) : Option Nat :=
  let upper := name.map Char.toUpper
  [fun _ => unifiedIdeographs.code? name, fun _ => syllableNamed? name,
    fun _ => [compatibilityIdeographs, khitanCharacters, nushuCharacters].findSome?
      (·.code? upper),
    fun _ => Table.charNames.findSome? fun table =>
      codeAmong? (splitOn ' ' upper) 0 [] (tableItems table),
    fun _ => furtherCode? upper].findSome? fun (look : Unit → Option Nat) => look ()

end MobileAudit.Text
