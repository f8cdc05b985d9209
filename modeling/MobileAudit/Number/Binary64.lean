namespace MobileAudit

/-! Binary floating-point numbers of 64 bits as words.  All arithmetic on them here is exact
arithmetic on the integers that the fields of the word describe. -/

structure Binary64 where
  bits : UInt64
deriving DecidableEq

namespace Binary64

/-- The leading bit of a mantissa, which words leave out. -/
def hiddenBit : Nat := Nat.pow 2 52

def signBit : Nat := Nat.pow 2 63

def negative (x : Binary64) : Bool := signBit ≤ x.bits.toNat

def exponentField (x : Binary64) : Nat := x.bits.toNat / hiddenBit % Nat.pow 2 11

def fractionField (x : Binary64) : Nat := x.bits.toNat % hiddenBit

def isFinite (x : Binary64) : Bool := x.exponentField != 2047

def isNaN (x : Binary64) : Bool := !x.isFinite && x.fractionField != 0

def isInfinite (x : Binary64) : Bool := !x.isFinite && x.fractionField == 0

/-- The size of a finite number is `mantissa * 2 ^ exponent`. -/
def mantissa (x : Binary64) : Nat :=
  if x.exponentField == 0 then x.fractionField else hiddenBit + x.fractionField

def exponent (x : Binary64) : Int :=
  if x.exponentField == 0 then -1074 else Int.ofNat x.exponentField - 1075

def isZero (x : Binary64) : Bool := x.isFinite && x.mantissa == 0

def ofFields (negative : Bool) (exponentField fraction : Nat) : Binary64 :=
  ⟨UInt64.ofNat ((if negative then signBit else 0) + exponentField * hiddenBit + fraction)⟩

def infinity (negative : Bool) : Binary64 := ofFields negative 2047 0

def nan : Binary64 := ofFields false 2047 (Nat.pow 2 51)

def zero (negative : Bool) : Binary64 := ofFields negative 0 0

/-- The numerator and denominator of the size of a finite number. -/
def ratio (x : Binary64) : Nat × Nat :=
  if x.exponent < 0 then (x.mantissa, Nat.pow 2 (-x.exponent).toNat)
  else (x.mantissa * Nat.pow 2 x.exponent.toNat, 1)

/-- The quotient rounded to an integer, a half going to the even neighbour. -/
def roundQuotient (num den : Nat) : Nat :=
  let q := num / den
  let r := num % den
  if 2 * r < den then q
  else if den < 2 * r then q + 1
  else if q % 2 == 0 then q else q + 1

/-- The word of `mantissa * 2 ^ exponent` for a mantissa of at most 53 bits, where a shorter one
comes with the least exponent. -/
def ofMantissa (negative : Bool) (mantissa : Nat) (exponent : Int) : Binary64 :=
  if mantissa < hiddenBit then ofFields negative 0 mantissa
  else
    let (m, e) :=
      if mantissa == 2 * hiddenBit then (hiddenBit, exponent + 1) else (mantissa, exponent)
    if e > 971 then infinity negative
    else ofFields negative (e + 1075).toNat (m - hiddenBit)

def ofRatio (negative : Bool) (num den : Nat) : Binary64 :=
  if num == 0 then zero negative
  else
    let guess : Int := Int.ofNat num.log2 - Int.ofNat den.log2 - 52
    let scaled := fun e : Int =>
      if e < 0 then (num * Nat.pow 2 (-e).toNat, den) else (num, den * Nat.pow 2 e.toNat)
    let (n, d) := scaled guess
    let exact := if n / d < hiddenBit then guess - 1 else guess
    let e := if exact < -1074 then -1074 else exact
    let (n, d) := scaled e
    ofMantissa negative (roundQuotient n d) e

/-- The number nearest to `digits * 10 ^ power`.  Powers far outside the range are decided without
writing them out. -/
def ofDecimal (negative : Bool) (digits : Nat) (power : Int) : Binary64 :=
  if digits == 0 then zero negative
  else
    let places : Int := Int.ofNat (Nat.log2 digits) * 3 / 10 + power
    if places > 400 then infinity negative
    else if places < -400 then zero negative
    else if power < 0 then ofRatio negative digits (Nat.pow 10 (-power).toNat)
    else ofRatio negative (digits * Nat.pow 10 power.toNat) 1

def ofInt (n : Int) : Binary64 := ofRatio (n < 0) n.natAbs 1

/-- The integer part, cut towards zero. -/
def truncate (x : Binary64) : Int :=
  let (num, den) := x.ratio
  let size := Int.ofNat (num / den)
  if x.negative then -size else size

def hasFraction (x : Binary64) : Bool :=
  let (num, den) := x.ratio
  num % den != 0

/-- A finite number without fraction equals an integer. -/
def equalsInt (x : Binary64) (n : Int) : Bool :=
  x.isFinite && !x.hasFraction && x.truncate == n

/-- Equality of values: a NaN equals nothing and the two zeros are equal. -/
def equals (x y : Binary64) : Bool :=
  !x.isNaN && !y.isNaN && (x.bits == y.bits || (x.isZero && y.isZero))

end Binary64

end MobileAudit
