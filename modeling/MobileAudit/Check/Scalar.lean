import MobileAudit.Check.Checked
import MobileAudit.Json.Read
import MobileAudit.Number.Read

namespace MobileAudit.Check

/-! Checks of single values.  Numbers and truth values are also read from texts. -/

def text : Value → Checked String
  | .text s => .valid s
  | _ => .flawed .notText

/-- Drops leading zeros and underscores between them.  A sign may follow them, and of nothing but
zeros the last one stays, also before a point. -/
def dropZeros : Char → List Char → Option (List Char)
  | last, [] => some [last]
  | last, c :: rest =>
      if c == '0' || c == '_' then dropZeros c rest
      else if c == '.' then some (last :: c :: rest)
      else if c == '-' || ('1' ≤ c && c ≤ '9') then some (c :: rest)
      else none

/-- A number without blanks, plus sign and leading zeros. -/
def bareInteger? (text : List Char) : Option (List Char) :=
  match Number.trimMargins text with
  | '+' :: '-' :: _ => none
  | '+' :: '0' :: rest => dropZeros '0' rest
  | '+' :: rest => some rest
  | '0' :: rest => dropZeros '0' rest
  | rest => some rest

/-- A point with nothing but zeros after it, at least one, is dropped. -/
def dropZeroFraction (digits : List Char) : List Char :=
  match digits.dropWhile (· != '.') with
  | _ :: z :: zeros =>
      if (z :: zeros).all (· == '0') then digits.takeWhile (· != '.') else digits
  | _ => digits

/-- The digits that single underscores may separate. -/
def ungrouped? (digits : List Char) : Option (List Char) :=
  if (Text.splitOn '_' digits).all (!·.isEmpty) then some (digits.filter (· != '_')) else none

/-- An integer as data writes it: a sign, digits and possibly a fraction of zeros. -/
def integerOfText (s : String) : Checked Int :=
  let read := do
    let (negative, unsigned) := match ← bareInteger? s.toList with
      | '-' :: rest => (true, rest)
      | rest => (false, rest)
    return (negative, ← ungrouped? (dropZeroFraction unsigned))
  match read with
  | none => .flawed .unreadableInteger
  | some (negative, digits) =>
      let run := digits.takeWhile Json.isDigit
      if run.length > Number.maxDigits then .flawed .oversizedInteger
      else if digits.isEmpty || run.length < digits.length then .flawed .unreadableInteger
      else
        let size := Int.ofNat (Json.digitsValue digits)
        .valid (if negative then -size else size)

def integer : Value → Checked Int
  | .int n => .valid n
  | .bool b => .valid (if b then 1 else 0)
  | .float x =>
      if !x.isFinite then .flawed .notFinite
      else if x.hasFraction then .flawed .fractionalInteger
      else if x.truncate.natAbs < Nat.pow 2 63 then .valid x.truncate
      else .flawed .oversizedInteger
  | .text s => integerOfText s
  | .bytes data =>
      match String.fromUTF8? (ByteArray.mk data.toArray) with
      | some s => integerOfText s
      | none => .flawed .unreadableInteger
  | _ => .flawed .notInteger

def integerAtLeast (least : Int) (v : Value) : Checked Int :=
  (integer v).bind fun n => if n < least then .flawed (.below least) else .valid n

def falseWords : List String := ["0", "off", "f", "false", "n", "no"]

def trueWords : List String := ["1", "on", "t", "true", "y", "yes"]

def truthOfText (s : String) : Checked Bool :=
  let word := String.ofList (s.toList.map fun c => if c.toNat < 0x80 then Text.lowerChar c else c)
  if falseWords.contains word then .valid false
  else if trueWords.contains word then .valid true
  else .flawed .unreadableTruth

/-- Zero and one stand for truth values, and other integers of 64 bits might. -/
def truthOfInteger (n : Int) : Checked Bool :=
  if n == 0 then .valid false
  else if n == 1 then .valid true
  else if -0x8000000000000000 ≤ n && n < 0x8000000000000000 then .flawed .unreadableTruth
  else .flawed .notTruth

def truth : Value → Checked Bool
  | .bool b => .valid b
  | .int n => truthOfInteger n
  | .float x =>
      if x.isFinite && !x.hasFraction && x.truncate.natAbs < Nat.pow 2 63 then
        truthOfInteger x.truncate
      else .flawed .notTruth
  | .text s => truthOfText s
  | .bytes data =>
      match String.fromUTF8? (ByteArray.mk data.toArray) with
      | some s => truthOfText s
      | none => .flawed .unreadableTruth
  | _ => .flawed .notTruth

def nullable {α : Type} (check : Value → Checked α) : Value → Checked (Option α)
  | .null => .valid none
  | v => (check v).map some

def itemsFrom {α : Type} (check : Value → Checked α) (index : Nat) : List Value → Checked (List α)
  | [] => .valid []
  | v :: rest =>
      (((check v).under (toString index)).and (itemsFrom check (index + 1) rest)).map
        fun (a, as) => a :: as

def list {α : Type} (check : Value → Checked α) : Value → Checked (List α)
  | .list items => itemsFrom check 0 items
  | .tuple items => itemsFrom check 0 items
  | .set items => itemsFrom check 0 items
  | _ => .flawed .notList

/-- The fields of a record: a mapping, whose other entries are passed over. -/
def record {α : Type} (name : String) (fields : Value.Entries → Checked α) (v : Value) :
    Checked α :=
  match v.bare with
  | .map entries => fields entries
  | _ => .flawed (.notRecord name)

/-- The value of a field under the first of its names that is present. -/
def fieldValue? (entries : Value.Entries) (names : List String) : Option Value :=
  names.findSome? fun name => entries.findText? name

/-- A field that has to be present; problems name it by the first of its names. -/
def required {α : Type} (entries : Value.Entries) (names : List String)
    (check : Value → Checked α) : Checked α :=
  (match fieldValue? entries names with
    | some v => check v
    | none => .flawed .missing).under (names.headD "")

def optional {α : Type} (entries : Value.Entries) (names : List String) (fallback : α)
    (check : Value → Checked α) : Checked α :=
  (match fieldValue? entries names with
    | some v => check v
    | none => .valid fallback).under (names.headD "")

/-! Conversions that settings apply before they are checked. -/

def qualifiedKind : Value → String
  | .date _ => "datetime.date"
  | .time _ => "datetime.time"
  | .moment _ => "datetime.datetime"
  | v => v.kindName

/-- The integer that a text writes loosely, where `shown` is the text in messages. -/
def convertedText (text : List Char) (shown : String) : Checked Int :=
  match Number.convert text with
  | .integer n => .valid n
  | .tooLong digits => .flawed (.rejected (Number.unreadText digits))
  | .malformed =>
      .flawed (.rejected ("invalid literal for int() with base 10: " ++
        String.ofList (shown.toList.take 200)))

/-- The integer that a value of any kind stands for; a fraction is cut off. -/
def convertInteger : Value → Checked Int
  | .int n => .valid n
  | .bool b => .valid (if b then 1 else 0)
  | .float x =>
      if x.isNaN then .flawed (.rejected "cannot convert float NaN to integer")
      else if x.isInfinite then .broken .infinite
      else .valid x.truncate
  | .text s => convertedText s.toList (Text.quoted s)
  | .bytes data =>
      convertedText (data.map fun b => Char.ofNat (if b < 0x80 then b.toNat else 0))
        (Text.quotedBytes data)
  | v => .broken (.notNumeric (qualifiedKind v))

def convertText (v : Value) : Checked String :=
  match v.plain? with
  | some text => .valid text
  | none => .flawed (.rejected Number.unwrittenText)

def convertItems : List Value → Checked (List String)
  | [] => .valid []
  | v :: rest => (convertText v).bind fun text => (convertItems rest).map (text :: ·)

def itemsOf? : Value → Option (List Value)
  | .list items => some items
  | .tuple items => some items
  | .set items => some items
  | .map entries => some (entries.map (·.1))
  | .bytes data => some (data.map fun b => .int b.toNat)
  | .text s => some (s.toList.map fun c => .text (String.singleton c))
  | .loop _ v => itemsOf? v
  | _ => none

/-- The texts of a list of any kind, or of the items between commas. -/
def convertTexts (v : Value) : Checked (List String) :=
  match v with
  | .null => .valid []
  | .text s => .valid (Text.commaItems s)
  | _ =>
      match itemsOf? v with
      | some items => convertItems items
      | none => .broken (.notIterable (qualifiedKind v))

end MobileAudit.Check
