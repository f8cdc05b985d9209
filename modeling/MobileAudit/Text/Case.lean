import MobileAudit.Text.Class
import MobileAudit.Text.Table.CaseMap

namespace MobileAudit.Text

/-! Case mapping of characters and texts, and comparison without regard to case. -/

/-- The lower-case form of one character as one character. -/
def lowerChar (c : Char) : Char :=
  if c.toNat < 0x80 then
    if isAsciiUpper c then Char.ofNat (c.toNat + 32) else c
  else Char.ofNat (mapByRuns Table.toLower c.toNat)

/-- The upper-case form of one character, which may be several characters. -/
def upperChars (c : Char) : List Char :=
  if c.toNat < 0x80 then
    [if isAsciiLower c then Char.ofNat (c.toNat - 32) else c]
  else match Table.toUpperLong.find? (·.1 == c.toNat) with
    | some (_, codes) => codes.map Char.ofNat
    | none => [Char.ofNat (mapByRuns Table.toUpper c.toNat)]

def isCaseIgnorable (c : Char) : Bool :=
  inClass (fun c => c == '\'' || c == '.' || c == ':' || c == '^' || c == '`')
    Table.caseIgnorable c

def isCased (c : Char) : Bool :=
  inClass isAsciiLetter Table.cased c

/-- The first character that counts for the shape of a word. -/
def firstCounting? (text : List Char) : Option Char :=
  text.find? fun c => !isCaseIgnorable c

/-- A capital sigma takes its final form after a cased letter and before none. -/
def isFinalSigma (before after : List Char) : Bool :=
  (firstCounting? before).any isCased && !(firstCounting? after).any isCased

def capitalSigma : Char := Char.ofNat 0x3a3

def capitalDottedI : Char := Char.ofNat 0x130

/-- Lower-cases a text; `before` holds what precedes it, nearest character first. -/
def lowerFrom (before : List Char) : List Char → List Char
  | [] => []
  | c :: rest =>
      let mapped :=
        if c == capitalSigma then
          [Char.ofNat (if isFinalSigma before rest then 0x3c2 else 0x3c3)]
        else if c == capitalDottedI then ['i', Char.ofNat 0x307]
        else [lowerChar c]
      mapped ++ lowerFrom (c :: before) rest

def lowerChars (text : List Char) : List Char :=
  lowerFrom [] text

def lower (text : String) : String :=
  String.ofList (lowerChars text.toList)

def upper (text : String) : String :=
  String.ofList (text.toList.flatMap upperChars)

/-- Lower-case characters that are the same as `c` once case is disregarded. -/
def foldedForms (c : Char) : List Nat :=
  let low := (lowerChar c).toNat
  match Table.sameFold.find? (·.1 == low) with
  | some (_, more) => low :: more
  | none => [low]

/-- Every character that is the same as `c` once case is disregarded. -/
def caseVariants (c : Char) : List Nat :=
  (foldedForms c).flatMap fun low =>
    let ascii := if 0x61 ≤ low && low ≤ 0x7a then [low - 32] else []
    low :: ascii ++ Table.toLower.toList.filterMap fun run => run.source? low

end MobileAudit.Text
