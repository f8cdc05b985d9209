import MobileAudit.Number.Read
import MobileAudit.Pattern.Basic
import MobileAudit.Pattern.SetReader

namespace MobileAudit.Pattern

/-! Reading patterns from their texts. -/

/-- How a text is understood: without regard to case, with lines of their own for `^` and `$`, with
`.` for line breaks too, with blanks and comments between its parts, and with ASCII classes. -/
structure Mode where
  anyCase : Bool := false
  byLine : Bool := false
  dotBreaks : Bool := false
  spaced : Bool := false
  ascii : Bool := false
deriving DecidableEq

structure Width where
  least : Nat
  most : Option Nat
deriving DecidableEq

namespace Width

def none : Width := ⟨0, some 0⟩

def one : Width := ⟨1, some 1⟩

def and (first second : Width) : Width :=
  ⟨first.least + second.least, do return (← first.most) + (← second.most)⟩

def or (first second : Width) : Width :=
  ⟨min first.least second.least, do return max (← first.most) (← second.most)⟩

def times (width : Width) (least : Nat) (most : Option Nat) : Width :=
  ⟨width.least * least,
    if width.most == some 0 || most == some 0 then some 0
    else do return (← width.most) * (← most)⟩

/-- The most that can be looked back over. -/
def maxFixed : Nat := 4294967295

def fixed? (width : Width) : Option Nat :=
  if width.most == some width.least && width.least ≤ maxFixed then some width.least
  else Option.none

end Width

/-- What may be done with a part: places and repetitions cannot be repeated. -/
inductive PartKind where
  | plain
  | place
  | repetition
deriving DecidableEq

structure Part where
  pattern : Pattern
  width : Width
  kind : PartKind := .plain
  /-- How many parts lie within each other in it. -/
  height : Nat := 0

namespace Part

def place (pattern : Pattern) : Part := ⟨pattern, .none, .place, 0⟩

def ofSet (mode : Mode) (chars : CharSet) : Part :=
  { pattern := .set (if mode.anyCase then chars.ignoringCase else chars), width := .one }

def ofSymbol (mode : Mode) (symbol : Symbol) : Part :=
  ofSet mode { items := symbol.items mode.ascii }

def ofChar (mode : Mode) (c : Char) : Part := ofSet mode (.one c)

def repeated (part : Part) (least : Nat) (most : Option Nat) (short settled : Bool) : Part :=
  let pattern := match part.pattern with
    | .set chars => Pattern.run chars least most short
    | body => .times body least most short
  { pattern := if settled then .settled pattern else pattern
    width := part.width.times least most
    kind := .repetition
    height := part.height + 1 }

end Part

/-- Parts one after the other, or alternatives of such. -/
structure Body where
  pattern : Pattern
  width : Width
  /-- The greatest height of a part. -/
  parts : Nat := 0
  alternatives : Bool := false

namespace Body

def empty : Body := { pattern := .empty, width := .none }

/-- Parts one after the other, the last one first. -/
def ofParts : List Part → Body
  | [] => empty
  | [part] => { pattern := part.pattern, width := part.width, parts := part.height }
  | part :: earlier =>
      let body := ofParts earlier
      { pattern := .seq body.pattern part.pattern
        width := body.width.and part.width
        parts := max body.parts part.height }

def or (first second : Body) : Body where
  pattern := .alt first.pattern second.pattern
  width := first.width.or second.width
  parts := max first.parts second.parts
  alternatives := true

def height (body : Body) : Nat := body.parts + body.alternatives.toNat

/-- The body in parentheses that only hold it together. -/
def part (body : Body) : Part :=
  { pattern := body.pattern, width := body.width, height := body.height }

/-- The body as part of a pattern around it. -/
def inside (wrap : Pattern → Pattern) (body : Body) : Part :=
  { pattern := wrap body.pattern, width := body.width, height := body.height + 1 }

/-- A look at what follows or precedes, which takes nothing. -/
def look (wrap : Pattern → Pattern) (body : Body) : Part :=
  { body.inside wrap with width := .none }

end Body

/-! Places in a text. -/

def lineStart : Pattern := .textStart <|> .behind 1 (.set (.one '\n'))

/-- The very end of a text. -/
def veryEnd : Pattern := .notBefore (.set { items := [], complement := true })

def lineEnd : Pattern := veryEnd <|> .ahead (.set (.one '\n'))

/-- A place between a character of a set and one that is none. -/
def edgeOf (chars : CharSet) : Pattern :=
  .behind 1 (.set chars) ++ .notBefore (.set chars) <|> .notAfter chars ++ .ahead (.set chars)

/-- A place in a text that is not empty. -/
def inText : Pattern :=
  let any : CharSet := { items := [], complement := true }
  .ahead (.set any) <|> .behind 1 (.set any)

def wordChars (mode : Mode) : CharSet :=
  { items := (Symbol.named .word).items mode.ascii }

/-! Reading. -/

/-- A pattern while it is read: the text to come, how many groups were opened, the names of groups,
the widths of those that are closed, which groups may be named inside of what looks back, the groups
whose presence is asked for, and whether something looks back over texts of several widths. -/
structure Reading where
  rest : List Char
  groups : Nat := 0
  names : List (List Char × Nat) := []
  widths : List (Nat × Width) := []
  visible : Option Nat := none
  asked : List Nat := []
  unfixed : Bool := false

namespace Reading

def next (r : Reading) : Reading := { r with rest := r.rest.drop 1 }

def take? (r : Reading) (c : Char) : Option Reading :=
  if r.rest.head? == some c then some r.next else none

/-- Opens a group, whose name must be new. -/
def openGroup? (r : Reading) (name : Option (List Char)) : Option (Nat × Reading) :=
  let index := r.groups + 1
  match name with
  | none => some (index, { r with groups := index })
  | some name =>
      if (r.names.lookup name).isSome then none
      else some (index, { r with groups := index, names := (name, index) :: r.names })

/-- The group of a number, if it is closed and may be named here. -/
def closedGroup? (r : Reading) (index : Nat) : Option Width := do
  let width ← r.widths.lookup index
  if r.visible.any (· < index) then none
  return width

end Reading

/-- The room for parts within each other: parentheses take two of it while a text is read, and
whatever is put around a part takes one of it afterwards. -/
def maxHeight : Nat := 981

/-- The room that is left for parts within a part that takes some of it. -/
def within (taken room : Nat) : Except Failure Nat :=
  if room < taken then .error (.broken .tooDeep) else .ok (room - taken)

def isName (name : List Char) : Bool :=
  name.head?.any Text.isNameStart && name.all Text.isNameRest

def readAgain (mode : Mode) (index : Nat) (r : Reading) : Except Failure (Part × Reading) :=
  orMalformed ((r.closedGroup? index).map fun width =>
    ({ pattern := .again index mode.anyCase, width }, r))

/-- What a backslash and a digit stand for: three octal digits are a character, and up to two
decimal ones the number of a group. -/
def readDigits (mode : Mode) (first : Char) (r : Reading) : Except Failure (Part × Reading) :=
  let digit := fun c : Char => c.toNat - '0'.toNat
  if first == '0' then
    (readOctal first r.rest).map fun (symbol, rest) =>
      (Part.ofSymbol mode symbol, { r with rest })
  else match r.rest with
    | second :: rest =>
        if Text.isAsciiDigit second then
          match rest with
          | third :: rest =>
              if isOctalDigit first && isOctalDigit second && isOctalDigit third then
                let code := numberOfDigits 8 [first, second, third]
                if code ≤ 0xff then .ok (Part.ofSymbol mode (.code code), { r with rest })
                else .error .malformed
              else readAgain mode (digit first * 10 + digit second) r.next
          | [] => readAgain mode (digit first * 10 + digit second) r.next
        else readAgain mode (digit first) r
    | [] => readAgain mode (digit first) r

def readEscape (mode : Mode) (r : Reading) : Except Failure (Part × Reading) :=
  match r.rest with
  | [] => .error .malformed
  | 'A' :: _ => .ok (.place .textStart, r.next)
  | 'Z' :: _ => .ok (.place veryEnd, r.next)
  | 'b' :: _ => .ok (.place (edgeOf (wordChars mode)), r.next)
  | 'B' :: _ => .ok (.place (inText ++ .notBefore (edgeOf (wordChars mode))), r.next)
  | c :: rest =>
      if Text.isAsciiDigit c then readDigits mode c r.next
      else (readCommonEscape c rest).map fun (symbol, rest) =>
        (Part.ofSymbol mode symbol, { r with rest })

/-- From here on a number of repetitions stands for any number of them. -/
def anyNumber : Nat := 4294967295

def readBound (digits : List Char) : Except Failure Nat :=
  let bound := numberOfDigits 10 digits
  if Number.maxDigits < digits.length then .error (.broken (.manyDigits digits.length))
  else if anyNumber ≤ bound then .error (.broken .manyRepetitions)
  else .ok bound

/-- The least and the greatest number of repetitions, in this order. -/
def readRange (low high : List Char) : Except Failure (Nat × Option Nat) := do
  let least ← readBound low
  if high.isEmpty then return (least, none)
  let most ← readBound high
  if most < least then .error .malformed else return (least, some most)

/-- Bounds in braces, if these are bounds at all. -/
def readBounds (text : List Char) : Option (Except Failure (Nat × Option Nat) × List Char) :=
  let low := text.takeWhile Text.isAsciiDigit
  let afterLow := text.dropWhile Text.isAsciiDigit
  let (high, rest) := match afterLow with
    | ',' :: more => (more.takeWhile Text.isAsciiDigit, more.dropWhile Text.isAsciiDigit)
    | _ => (low, afterLow)
  match text, rest with
  | '\x7d' :: _, _ => none
  | _, '\x7d' :: rest => some (readRange low high, rest)
  | _, _ => none

/-- Repeats the last part; a question mark prefers fewer repetitions, a plus sign settles them. -/
def repeatLast (parts : List Part) (least : Nat) (most : Option Nat) (r : Reading) :
    Except Failure (List Part × Reading) :=
  match parts with
  | part :: earlier =>
      if part.kind != .plain then .error .malformed
      else match r.rest with
        | '?' :: _ => .ok (part.repeated least most true false :: earlier, r.next)
        | '+' :: _ => .ok (part.repeated least most false true :: earlier, r.next)
        | _ => .ok (part.repeated least most false false :: earlier, r)
  | [] => .error .malformed

/-- Switches of a mode: letters that turn it on and, after a hyphen, off. -/
def setSwitch (on : Bool) (mode : Mode) : Char → Option Mode
  | 'i' => some { mode with anyCase := on }
  | 'm' => some { mode with byLine := on }
  | 's' => some { mode with dotBreaks := on }
  | 'x' => some { mode with spaced := on }
  | 'a' => if on then some { mode with ascii := true } else none
  | 'u' => if on then some { mode with ascii := false } else none
  | _ => none

def readSwitches (mode : Mode) (text : List Char) : Option (Mode × List Char) := do
  let on := text.takeWhile Text.isAsciiLetter
  let (off, rest) ← match text.dropWhile Text.isAsciiLetter with
    | ':' :: rest => pure ([], rest)
    | '-' :: more =>
        match more.takeWhile Text.isAsciiLetter, more.dropWhile Text.isAsciiLetter with
        | c :: cs, ':' :: rest => pure (c :: cs, rest)
        | _, _ => failure
    | _ => failure
  guard (!(on.contains 'a' && on.contains 'u') && !on.any off.contains)
  let mode ← on.foldlM (setSwitch true) mode
  let mode ← off.foldlM (setSwitch false) mode
  return (mode, rest)

def skipComment (r : Reading) : Option Reading :=
  (readUntil ')' ['#'] r.rest).map fun (_, rest) => { r with rest }

/-- A name before a closing sign. -/
def readName (close : Char) (text : List Char) : Option (List Char × List Char) := do
  let (name, rest) ← readUntil close [] text
  guard (isName name)
  return (name, rest)

/-- More groups than any text has. -/
def maxGroups : Nat := 1073741823

/-- The group that a condition asks for, by its name or by its number. -/
def readCondition (name : List Char) (r : Reading) : Option (Nat × Reading) :=
  if isName name then (r.names.lookup name).map fun index => (index, r)
  else match Number.convert name with
    | .integer (.ofNat index) =>
        if 0 < index && index < maxGroups then
          some (index, { r with asked := index :: r.asked })
        else none
    | _ => none

mutual

/-- Reads alternatives up to a closing parenthesis or the end. -/
def readAlternatives (fuel : Nat) (mode : Mode) (room : Nat) (r : Reading) :
    Except Failure (Body × Reading) :=
  match fuel with
  | 0 => .error .malformed
  | fuel + 1 => do
      let (first, r) ← readSequence fuel mode room [] r
      match r.take? '|' with
      | none => return (first, r)
      | some r =>
          let (second, r) ← readAlternatives fuel mode room r
          return (first.or second, r)

/-- Reads parts, onto those read, up to the end of an alternative. -/
def readSequence (fuel : Nat) (mode : Mode) (room : Nat) (parts : List Part) (r : Reading) :
    Except Failure (Body × Reading) :=
  match fuel with
  | 0 => .error .malformed
  | fuel + 1 =>
      match r.rest with
      | [] => .ok (Body.ofParts parts, r)
      | '|' :: _ => .ok (Body.ofParts parts, r)
      | ')' :: _ => .ok (Body.ofParts parts, r)
      | c :: rest =>
          let goOn := fun (read : Except Failure (Part × Reading)) => do
            let (part, r) ← read
            readSequence fuel mode room (part :: parts) r
          let repeatOn := fun (least : Nat) (most : Option Nat) (r : Reading) => do
            let (parts, r) ← repeatLast parts least most r
            readSequence fuel mode room parts r
          if mode.spaced && " \t\n\r\x0b\x0c".toList.contains c then
            readSequence fuel mode room parts r.next
          else if mode.spaced && c == '#' then
            readSequence fuel mode room parts
              { r with rest := (rest.dropWhile (· != '\n')).drop 1 }
          else match c with
            | '\\' => goOn (readEscape mode r.next)
            | '[' =>
                goOn ((readSet mode.ascii rest).map fun (chars, rest) =>
                  (Part.ofSet mode chars, { r with rest }))
            | '.' =>
                let chars : CharSet :=
                  if mode.dotBreaks then { items := [], complement := true } else .notNewline
                goOn (.ok ({ pattern := .set chars, width := .one }, r.next))
            | '^' =>
                goOn (.ok (.place (if mode.byLine then lineStart else .textStart), r.next))
            | '$' => goOn (.ok (.place (if mode.byLine then lineEnd else .textEnd), r.next))
            | '?' => repeatOn 0 (some 1) r.next
            | '*' => repeatOn 0 none r.next
            | '+' => repeatOn 1 none r.next
            | '\x7b' =>
                match readBounds rest with
                | none => goOn (.ok (Part.ofChar mode c, r.next))
                | some (bounds, rest) => do
                    let (least, most) ← bounds
                    repeatOn least most { r with rest }
            | '(' =>
                match rest with
                | '?' :: '#' :: rest => do
                    readSequence fuel mode room parts (← orMalformed (skipComment { r with rest }))
                | _ => goOn (readGroup fuel mode room r.next)
            | _ => goOn (.ok (Part.ofChar mode c, r.next))

def readGroup (fuel : Nat) (mode : Mode) (room : Nat) (r : Reading) :
    Except Failure (Part × Reading) :=
  match fuel with
  | 0 => .error .malformed
  | fuel + 1 =>
      match r.rest with
      | '?' :: ':' :: rest => readInner fuel mode room Body.part { r with rest }
      | '?' :: '>' :: rest => readInner fuel mode room (Body.inside .settled) { r with rest }
      | '?' :: '=' :: rest => readInner fuel mode room (Body.look .ahead) { r with rest }
      | '?' :: '!' :: rest => readInner fuel mode room (Body.look .notBefore) { r with rest }
      | '?' :: '<' :: '=' :: rest => readBack fuel mode room id { r with rest }
      | '?' :: '<' :: '!' :: rest => readBack fuel mode room .notBefore { r with rest }
      | '?' :: 'P' :: '<' :: rest => do
          let (name, rest) ← orMalformed (readName '>' rest)
          readOpenGroup fuel mode room (some name) { r with rest }
      | '?' :: 'P' :: '=' :: rest => do
          let (name, rest) ← orMalformed (readName ')' rest)
          readAgain mode (← orMalformed (r.names.lookup name)) { r with rest }
      | '?' :: '(' :: rest => readIf fuel mode room { r with rest }
      | '?' :: rest => do
          let (inner, rest) ← orMalformed (readSwitches mode rest)
          readInner fuel inner room (Body.inside id) { r with rest }
      | _ => readOpenGroup fuel mode room none r

/-- Reads what stands in parentheses, with the closing one. -/
def readInner (fuel : Nat) (mode : Mode) (room : Nat) (make : Body → Part) (r : Reading) :
    Except Failure (Part × Reading) :=
  match fuel with
  | 0 => .error .malformed
  | fuel + 1 => do
      let (body, r) ← readAlternatives fuel mode (← within 2 room) r
      return (make body, ← orMalformed (r.take? ')'))

def readOpenGroup (fuel : Nat) (mode : Mode) (room : Nat) (name : Option (List Char))
    (r : Reading) : Except Failure (Part × Reading) :=
  match fuel with
  | 0 => .error .malformed
  | fuel + 1 => do
      let (index, r) ← orMalformed (r.openGroup? name)
      let (part, r) ← readInner fuel mode room (Body.inside (.group index)) r
      return (part, { r with widths := (index, part.width) :: r.widths })

/-- A look back, which has to have a fixed width. -/
def readBack (fuel : Nat) (mode : Mode) (room : Nat) (wrap : Pattern → Pattern) (r : Reading) :
    Except Failure (Part × Reading) :=
  match fuel with
  | 0 => .error .malformed
  | fuel + 1 => do
      let visible := r.visible
      let (part, r) ← readInner fuel mode room (Body.inside id)
        { r with visible := some (visible.getD r.groups) }
      let pattern := wrap (.behind (part.width.fixed?.getD 0) part.pattern)
      return ({ part with pattern, width := .none },
        { r with visible, unfixed := r.unfixed || part.width.fixed?.isNone })

def readIf (fuel : Nat) (mode : Mode) (room : Nat) (r : Reading) :
    Except Failure (Part × Reading) :=
  match fuel with
  | 0 => .error .malformed
  | fuel + 1 => do
      let (name, rest) ← orMalformed (readUntil ')' [] r.rest)
      let (index, r) ← orMalformed (readCondition name { r with rest })
      if r.visible.isSome && (r.closedGroup? index).isNone then .error .malformed
      let room ← within 1 room
      let (present, r) ← readSequence fuel mode room [] r
      let (absent, r) ← match r.take? '|' with
        | some r => readSequence fuel mode room [] r
        | none => pure (Body.empty, r)
      let body := { present.or absent with alternatives := false }
      return (body.inside fun _ => .ifGroup index present.pattern absent.pattern,
        ← orMalformed (r.take? ')'))

end

/-- The pattern of a text.  What looks back and how high the parts are is only looked at when the
whole text has been read. -/
def read (anyCase : Bool) (text : List Char) : Except Failure Pattern := do
  let (body, r) ← readAlternatives (5 * text.length + 10) { anyCase } maxHeight { rest := text }
  if !r.rest.isEmpty || r.asked.any (r.groups < ·) || r.unfixed then .error .malformed
  else if maxHeight < body.height then .error (.broken .tooDeep)
  else return body.pattern

end MobileAudit.Pattern
