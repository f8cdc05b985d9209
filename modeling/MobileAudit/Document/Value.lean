import MobileAudit.Number.Decimal
import MobileAudit.Text.Quoted
import MobileAudit.Text.Split

namespace MobileAudit

/-! The values that configuration files and data documents hold.  A mapping keeps its entries in
document order, and a list or mapping may hold itself. -/

namespace Document

structure Date where
  year : Nat
  month : Nat
  day : Nat
deriving DecidableEq

structure Time where
  hour : Nat
  minute : Nat
  second : Nat
  micro : Nat
deriving DecidableEq

/-- A date with a time of day and, possibly, a distance from universal time in minutes. -/
structure Moment where
  date : Date
  time : Time
  zone : Option Int
deriving DecidableEq

/-- The days from the first day of the first year to the first day of a year. -/
def daysBeforeYear (year : Nat) : Nat :=
  let y := year - 1
  y * 365 + y / 4 - y / 100 + y / 400

def isLeap (year : Nat) : Bool :=
  year % 4 == 0 && (year % 100 != 0 || year % 400 == 0)

def daysIn (year month : Nat) : Nat :=
  if month == 2 then (if isLeap year then 29 else 28)
  else if [4, 6, 9, 11].contains month then 30
  else 31

def Date.dayNumber (d : Date) : Nat :=
  (List.range (d.month - 1)).foldl (fun days m => days + daysIn d.year (m + 1))
    (daysBeforeYear d.year + (d.day - 1))

/-- The microseconds since the first day as the clock of the moment's own place shows them. -/
def Moment.localMicros (m : Moment) : Int :=
  let t := m.time
  (((m.date.dayNumber * 24 + t.hour) * 60 + t.minute) * 60 + t.second) * 1000000 + t.micro

/-- The moment in universal time, if its distance from it is known. -/
def Moment.universal? (m : Moment) : Option Int :=
  m.zone.map fun minutes => m.localMicros - minutes * 60000000

/-- Moments with a known distance from universal time are equal if they are the same instant. -/
def Moment.same (a b : Moment) : Bool :=
  match a.universal?, b.universal? with
  | some x, some y => x == y
  | none, none => a == b
  | _, _ => false

end Document

open Document in
inductive Value where
  | null
  | bool (b : Bool)
  | int (n : Int)
  | float (x : Binary64)
  | text (s : String)
  | list (items : List Value)
  | tuple (items : List Value)
  | map (entries : List (Value × Value))
  | set (items : List Value)
  | date (d : Date)
  | time (t : Time)
  | moment (m : Moment)
  | bytes (data : List UInt8)
  /-- A list, tuple or mapping that holds itself, under a label. -/
  | loop (label : Nat) (v : Value)
  /-- What has that label, around this place. -/
  | back (label : Nat)

namespace Value

def bare : Value → Value
  | loop _ v => v.bare
  | v => v

def isNull : Value → Bool
  | null => true
  | _ => false

/-- Equality of keys: truth values and numbers are compared by their numeric value, all values that
are no numbers are one key, and a list is none. -/
def sameKey : Value → Value → Bool
  | null, null => true
  | text a, text b => a == b
  | date a, date b => a == b
  | time a, time b => a == b
  | moment a, moment b => a.same b
  | bytes a, bytes b => a == b
  | bool a, bool b => a == b
  | bool a, int n => n == (if a then 1 else 0)
  | int n, bool a => n == (if a then 1 else 0)
  | bool a, float x => x.equalsInt (if a then 1 else 0)
  | float x, bool a => x.equalsInt (if a then 1 else 0)
  | int a, int b => a == b
  | int n, float x => x.equalsInt n
  | float x, int n => x.equalsInt n
  | float x, float y => x.equals y || (x.isNaN && y.isNaN)
  | _, _ => false

abbrev Entries := List (Value × Value)

namespace Entries

/-- Sets an entry: a present key keeps its place and its spelling, a new one goes to the end. -/
def put (key value : Value) : Entries → Entries
  | [] => [(key, value)]
  | (k, v) :: rest => if k.sameKey key then (k, value) :: rest else (k, v) :: put key value rest

def find? (key : Value) : Entries → Option Value
  | [] => none
  | (k, v) :: rest => if k.sameKey key then some v else find? key rest

def findText? (entries : Entries) (key : String) : Option Value :=
  find? (.text key) entries

def hasKey (entries : Entries) (key : Value) : Bool :=
  (find? key entries).isSome

end Entries

def kindName : Value → String
  | null => "NoneType"
  | bool _ => "bool"
  | int _ => "int"
  | float _ => "float"
  | text _ => "str"
  | list _ => "list"
  | tuple _ => "tuple"
  | map _ => "dict"
  | set _ => "set"
  | date _ => "date"
  | time _ => "time"
  | moment _ => "datetime"
  | bytes _ => "bytes"
  | loop _ v => v.kindName
  | back _ => "object"

/-- Empty and zero values count as false. -/
def truthy : Value → Bool
  | null => false
  | bool b => b
  | int n => n != 0
  | float x => !x.isZero
  | text s => !s.isEmpty
  | list items => !items.isEmpty
  | tuple items => !items.isEmpty
  | map entries => !entries.isEmpty
  | set items => !items.isEmpty
  | bytes data => !data.isEmpty
  | loop _ v => v.truthy
  | _ => true

end Value

end MobileAudit
