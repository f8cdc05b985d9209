import MobileAudit.Document.Value

namespace MobileAudit.Document

/-! Dates and times that exist. -/

/-- A day of the years 1 to 9999. -/
def Date.make? (year month day : Nat) : Option Date :=
  if 1 ≤ year && year ≤ 9999 && 1 ≤ month && month ≤ 12 && 1 ≤ day && day ≤ daysIn year month then
    some ⟨year, month, day⟩
  else none

def Time.make? (hour minute second micro : Nat) : Option Time :=
  if hour ≤ 23 && minute ≤ 59 && second ≤ 59 && micro ≤ 999999 then
    some ⟨hour, minute, second, micro⟩
  else none

/-- A distance from universal time of less than a day, in minutes. -/
def zone? (negative : Bool) (hours minutes : Nat) : Option Int :=
  let distance := hours * 60 + minutes
  if distance < 24 * 60 then some (if negative then -distance else distance) else none

/-- The digits of a fraction of a second as microseconds; further digits are cut off. -/
def microseconds (digits : List Nat) : Nat :=
  (List.range 6).foldl (fun n i => n * 10 + digits.getD i 0) 0

end MobileAudit.Document
