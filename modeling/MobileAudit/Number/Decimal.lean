import MobileAudit.Number.Binary64

namespace MobileAudit.Number

/-! Decimal texts of numbers: a fixed number of places, and the fewest digits that read back. -/

def padLeft (width : Nat) (fill : Char) (text : List Char) : List Char :=
  List.replicate (width - text.length) fill ++ text

def digitsOf (n : Nat) : List Char := Nat.toDigits 10 n

/-- The text of a finite number with the given number of places, a half going to the even
neighbour. -/
def fixed (places : Nat) (x : Binary64) : String :=
  let (num, den) := x.ratio
  let scaled := Binary64.roundQuotient (num * Nat.pow 10 places) den
  let whole := digitsOf (scaled / Nat.pow 10 places)
  let tail :=
    if places == 0 then []
    else '.' :: padLeft places '0' (digitsOf (scaled % Nat.pow 10 places))
  String.ofList ((if x.negative then ['-'] else []) ++ whole ++ tail)

/-- An interval of the values that round to one number, with a common denominator. -/
structure Interval where
  low : Nat
  value : Nat
  high : Nat
  den : Nat
  closed : Bool

def roundingInterval (x : Binary64) : Interval :=
  let m := x.mantissa
  let (low, value, high) :=
    if m == Binary64.hiddenBit && x.exponentField > 1 then (4 * m - 1, 4 * m, 4 * m + 2)
    else (4 * m - 2, 4 * m, 4 * m + 2)
  let closed := m % 2 == 0
  let e := x.exponent - 2
  if e < 0 then ⟨low, value, high, Nat.pow 2 (-e).toNat, closed⟩
  else ⟨low * Nat.pow 2 e.toNat, value * Nat.pow 2 e.toNat, high * Nat.pow 2 e.toNat, 1, closed⟩

def Interval.holds (i : Interval) (digits : Nat) (power : Int) : Bool :=
  let (n, scale) :=
    if power < 0 then (digits * i.den, Nat.pow 10 (-power).toNat)
    else (digits * i.den * Nat.pow 10 power.toNat, 1)
  if i.closed then i.low * scale ≤ n && n ≤ i.high * scale
  else i.low * scale < n && n < i.high * scale

/-- The distance of `digits * 10 ^ power` from the value, over a denominator that depends on the
power alone. -/
def Interval.distance (i : Interval) (digits : Nat) (power : Int) : Nat :=
  let (n, scale) :=
    if power < 0 then (digits * i.den, Nat.pow 10 (-power).toNat)
    else (digits * i.den * Nat.pow 10 power.toNat, 1)
  let v := i.value * scale
  if n ≤ v then v - n else n - v

/-- The value divided by `10 ^ power`, rounded down. -/
def Interval.floorAt (i : Interval) (power : Int) : Nat :=
  if power < 0 then i.value * Nat.pow 10 (-power).toNat / i.den
  else i.value / (i.den * Nat.pow 10 power.toNat)

/-- The power of ten at or below the value. -/
def Interval.magnitude (i : Interval) : Int :=
  let whole := i.value / i.den
  if 0 < whole then Int.ofNat (digitsOf whole).length - 1
  else
    let places := (List.range 330).find? (fun k => i.den ≤ i.value * Nat.pow 10 (k + 1))
    Int.negOfNat (places.getD 0 + 1)

/-- Digits and power of ten of the shortest decimal that reads back as a positive number; of
several the nearest. -/
def shortest (x : Binary64) : Nat × Int :=
  let i := roundingInterval x
  let top := i.magnitude
  let candidate := fun count : Nat =>
    let power : Int := top + 1 - Int.ofNat count
    let down := i.floorAt power
    match i.holds down power, i.holds (down + 1) power with
    | true, true =>
        some (if i.distance (down + 1) power < i.distance down power then down + 1 else down,
          power)
    | true, false => some (down, power)
    | false, true => some (down + 1, power)
    | false, false => none
  (((List.range 17).map (· + 1)).findSome? candidate).getD (0, 0)

/-- Moves trailing zeros of the digits into the power. -/
def stripZeros : Nat → Nat × Int → Nat × Int
  | 0, d => d
  | fuel + 1, (digits, power) =>
      if digits % 10 == 0 then stripZeros fuel (digits / 10, power + 1) else (digits, power)

/-- The text of a number: positional from `1e-4` up to below `1e16`, else with an exponent of at
least two digits. -/
def floatText (x : Binary64) : String :=
  let sign := if x.negative then "-" else ""
  if x.isNaN then "nan"
  else if x.isInfinite then sign ++ "inf"
  else if x.isZero then sign ++ "0.0"
  else
    let (digits, power) := stripZeros 400 (shortest x)
    let ds := digitsOf digits
    let exp : Int := power + Int.ofNat ds.length - 1
    let body :=
      if exp < -4 || 16 ≤ exp then
        let head := match ds with
          | [d] => [d]
          | d :: more => d :: '.' :: more
          | [] => []
        let expSign := if exp < 0 then '-' else '+'
        head ++ 'e' :: expSign :: padLeft 2 '0' (digitsOf exp.natAbs)
      else if power ≥ 0 then
        ds ++ List.replicate power.toNat '0' ++ ['.', '0']
      else
        let places := (-power).toNat
        let padded := padLeft (places + 1) '0' ds
        let cut := padded.length - places
        padded.take cut ++ '.' :: padded.drop cut
    sign ++ String.ofList body

end MobileAudit.Number
