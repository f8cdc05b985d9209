import MobileAudit.Pattern.Match
import MobileAudit.Pattern.SetReader

namespace MobileAudit.Exclusion

/-! Globs: their parts, the text of the pattern they stand for, and the pattern itself. -/

open Pattern

inductive GlobPart where
  /-- `**/`, any number of leading directories. -/
  | anyDirectories
  /-- `**`, any characters. -/
  | anything
  /-- `*`, characters of one path component. -/
  | anyName
  /-- `?`, one character of a path component. -/
  | anyChar
  /-- A bracket expression with its brackets. -/
  | bracket (text : List Char)
  | literal (c : Char)
deriving DecidableEq

/-- The end of a bracket expression: a complement sign and a bracket right after the opening one do
not close it. -/
def closeBracket (text : List Char) : Option (List Char × List Char) :=
  let (sign, afterSign) := if text.head? == some '!' then (['!'], text.drop 1) else ([], text)
  let (first, afterFirst) :=
    if afterSign.head? == some ']' then ([']'], afterSign.drop 1) else ([], afterSign)
  match afterFirst.dropWhile (· != ']') with
  | [] => none
  | _ :: rest => some (sign ++ first ++ afterFirst.takeWhile (· != ']') ++ [']'], rest)

/-- The text of a bracket expression, with `^` for the complement sign. -/
def bracketText (inner : List Char) : List Char :=
  match inner with
  | '!' :: rest => '[' :: '^' :: rest
  | _ => '[' :: inner

def partsFrom : Nat → List Char → List GlobPart
  | 0, _ => []
  | _, [] => []
  | fuel + 1, '*' :: '*' :: '/' :: rest => .anyDirectories :: partsFrom fuel rest
  | fuel + 1, '*' :: '*' :: rest => .anything :: partsFrom fuel rest
  | fuel + 1, '*' :: rest => .anyName :: partsFrom fuel rest
  | fuel + 1, '?' :: rest => .anyChar :: partsFrom fuel rest
  | fuel + 1, '[' :: rest =>
      match closeBracket rest with
      | some (inner, rest) => .bracket (bracketText inner) :: partsFrom fuel rest
      | none => .literal '[' :: partsFrom fuel rest
  | fuel + 1, c :: rest => .literal c :: partsFrom fuel rest

def globParts (glob : List Char) : List GlobPart :=
  partsFrom glob.length glob

def isSpecial (c : Char) : Bool :=
  "()[]\x7b\x7d?*+-|^$\\.&~# \t\n\r\x0b\x0c".toList.contains c

namespace GlobPart

def text : GlobPart → List Char
  | anyDirectories => "(?:.*/)?".toList
  | anything => ".*".toList
  | anyName => "[^/]*".toList
  | anyChar => "[^/]".toList
  | bracket text => text
  | literal c => if isSpecial c then ['\\', c] else [c]

/-- The pattern of a part; nothing if it is a bracket expression whose text is not exactly that of
a set. -/
def pattern? : GlobPart → Option Pattern
  | anyDirectories => some (optional (CharSet.notNewline.many ++ lit "/"))
  | anything => some CharSet.notNewline.many
  | anyName => some (CharSet.one '/').except.many
  | anyChar => some (.set (CharSet.one '/').except)
  | bracket text =>
      match readSet false (text.drop 1) with
      | .ok (chars, []) => some (.set chars)
      | _ => none
  | literal c => some (.set (.one c))

end GlobPart

def partsText (parts : List GlobPart) : List Char :=
  parts.flatMap GlobPart.text

def globText (glob : String) : String :=
  String.ofList (partsText (globParts glob.toList))

def partsPattern? : List GlobPart → Option Pattern
  | [] => some .empty
  | part :: rest => do return (← part.pattern?) ++ (← partsPattern? rest)

end MobileAudit.Exclusion
