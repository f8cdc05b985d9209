namespace MobileAudit.Number

/-! The size up to which integers are converted between numbers and decimal texts. -/

/-- Texts of more digits are not read, and numbers of more digits are not written. -/
def maxDigits : Nat := 4300

def fitsDecimal (n : Int) : Bool := n.natAbs < Nat.pow 10 maxDigits

def limitText (detail : String) : String :=
  "Exceeds the limit (4300 digits) for integer string conversion" ++ detail ++
    "; use sys.set_int_max_str_digits() to increase the limit"

def unreadText (digits : Nat) : String := limitText (": value has " ++ toString digits ++ " digits")

def unwrittenText : String := limitText ""

end MobileAudit.Number
