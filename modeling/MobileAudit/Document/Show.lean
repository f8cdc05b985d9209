import MobileAudit.Document.Value
import MobileAudit.Number.Limit

namespace MobileAudit

/-! Texts of values in messages and settings. -/

namespace Document

def pad (width n : Nat) : String :=
  String.ofList (Number.padLeft width '0' (Number.digitsOf n))

def Date.iso (d : Date) : String :=
  pad 4 d.year ++ "-" ++ pad 2 d.month ++ "-" ++ pad 2 d.day

def Time.iso (t : Time) : String :=
  pad 2 t.hour ++ ":" ++ pad 2 t.minute ++ ":" ++ pad 2 t.second ++
    (if t.micro == 0 then "" else "." ++ pad 6 t.micro)

def zoneText (minutes : Int) : String :=
  (if minutes < 0 then "-" else "+") ++
    pad 2 (minutes.natAbs / 60) ++ ":" ++ pad 2 (minutes.natAbs % 60)

/-- Date and time with the given character between them. -/
def Moment.write (separator : String) (m : Moment) : String :=
  m.date.iso ++ separator ++ m.time.iso ++ (m.zone.map zoneText).getD ""

def Moment.iso (m : Moment) : String := m.write "T"

def Date.fields (d : Date) : List String :=
  [toString d.year, toString d.month, toString d.day]

/-- Hour and minute always, seconds and their parts only when needed. -/
def Time.fields (t : Time) : List String :=
  [toString t.hour, toString t.minute] ++
    (if t.second == 0 && t.micro == 0 then [] else [toString t.second]) ++
    (if t.micro == 0 then [] else [toString t.micro])

def zoneField (minutes : Int) : String :=
  if minutes == 0 then "tzinfo=datetime.timezone.utc"
  else
    let delta :=
      if minutes < 0 then "days=-1, seconds=" ++ toString (86400 + minutes * 60)
      else "seconds=" ++ toString (minutes * 60)
    "tzinfo=datetime.timezone(datetime.timedelta(" ++ delta ++ "))"

def call (name : String) (arguments : List String) : String :=
  name ++ "(" ++ Text.joinTexts ", " arguments ++ ")"

end Document

namespace Value

/-- What stands for a list, pair or mapping inside itself. -/
def ellipsis : Value → String
  | list _ => "[...]"
  | tuple _ => "(...)"
  | map _ => "\x7b...\x7d"
  | _ => "..."

open Document in
mutual

/-- A value inside a list or mapping: texts are quoted.  The labels are those of the lists,
pairs and mappings around it. -/
def quotedIn (labels : List (Nat × String)) : Value → String
  | null => "None"
  | bool b => if b then "True" else "False"
  | int n => toString n
  | float x => Number.floatText x
  | text s => Text.quoted s
  | list items => "[" ++ Text.joinTexts ", " (quotedAll labels items) ++ "]"
  | tuple [item] => "(" ++ quotedIn labels item ++ ",)"
  | tuple items => "(" ++ Text.joinTexts ", " (quotedAll labels items) ++ ")"
  | map entries => "\x7b" ++ Text.joinTexts ", " (quotedEntries labels entries) ++ "\x7d"
  | set [] => "set()"
  | set items => "\x7b" ++ Text.joinTexts ", " (quotedAll labels items) ++ "\x7d"
  | date d => call "datetime.date" d.fields
  | time t => call "datetime.time" t.fields
  | moment m =>
      call "datetime.datetime" (m.date.fields ++ m.time.fields ++ (m.zone.map zoneField).toList)
  | bytes data => Text.quotedBytes data
  | loop label v =>
      if (labels.lookup label).isSome then v.ellipsis
      else quotedIn ((label, v.ellipsis) :: labels) v
  | back label => (labels.lookup label).getD "..."

def quotedAll (labels : List (Nat × String)) : List Value → List String
  | [] => []
  | v :: rest => quotedIn labels v :: quotedAll labels rest

def quotedEntries (labels : List (Nat × String)) : List (Value × Value) → List String
  | [] => []
  | (k, v) :: rest =>
      (quotedIn labels k ++ ": " ++ quotedIn labels v) :: quotedEntries labels rest

end

def quoted (v : Value) : String := quotedIn [] v

/-- A value on its own: texts and points in time as they are. -/
def plain : Value → String
  | text s => s
  | date d => d.iso
  | time t => t.iso
  | moment m => m.write " "
  | other => other.quoted

mutual

/-- Whether a value has a text: its integers are small enough to be written. -/
def isWritable : Value → Bool
  | int n => Number.fitsDecimal n
  | list items => allWritable items
  | tuple items => allWritable items
  | set items => allWritable items
  | map entries => entriesWritable entries
  | loop _ v => isWritable v
  | _ => true

def allWritable : List Value → Bool
  | [] => true
  | v :: rest => isWritable v && allWritable rest

def entriesWritable : List (Value × Value) → Bool
  | [] => true
  | (k, v) :: rest => isWritable k && isWritable v && entriesWritable rest

end

def plain? (v : Value) : Option String := if v.isWritable then some v.plain else none

end Value

end MobileAudit
