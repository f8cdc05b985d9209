import MobileAudit.Text.Class

namespace MobileAudit.Text

/-! Bytes in the alphabet of 64 characters. -/

def base64Value? (c : Char) : Option Nat :=
  if isAsciiUpper c then some (c.toNat - 'A'.toNat)
  else if isAsciiLower c then some (c.toNat - 'a'.toNat + 26)
  else if isAsciiDigit c then some (c.toNat - '0'.toNat + 52)
  else if c == '+' then some 62
  else if c == '/' then some 63
  else none

/-- Decodes groups of four characters.  Characters outside the alphabet are passed over; `held` are
the values of an unfinished group, `pads` the padding signs since the last value.  Complete padding
ends the text. -/
def decodeBase64Onto (bytes : List UInt8) (held : List Nat) (pads : Nat) :
    List Char → Option (List UInt8)
  | [] => if held.isEmpty then some bytes.reverse else none
  | c :: rest =>
      if c == '=' then
        if held.length ≥ 2 then
          if held.length + pads + 1 ≥ 4 then some (flush held ++ bytes).reverse
          else decodeBase64Onto bytes held (pads + 1) rest
        else decodeBase64Onto bytes held pads rest
      else
        match base64Value? c with
        | none => decodeBase64Onto bytes held pads rest
        | some v =>
            match held with
            | [x, y, z] => decodeBase64Onto (flush [x, y, z, v] ++ bytes) [] 0 rest
            | _ => decodeBase64Onto bytes (held ++ [v]) 0 rest
where
  /-- The bytes of a group, last first. -/
  flush : List Nat → List UInt8
    | [a, b] => [UInt8.ofNat (a * 4 + b / 16)]
    | [a, b, c] => [UInt8.ofNat (b % 16 * 16 + c / 4), UInt8.ofNat (a * 4 + b / 16)]
    | [a, b, c, d] =>
        [UInt8.ofNat (c % 4 * 64 + d), UInt8.ofNat (b % 16 * 16 + c / 4),
          UInt8.ofNat (a * 4 + b / 16)]
    | _ => []

def decodeBase64? (text : List Char) : Option (List UInt8) :=
  if text.all fun c => c.toNat < 128 then decodeBase64Onto [] [] 0 text else none

def base64Alphabet : List Char :=
  "ABCDEFGHIJKLMNOPQRSTUVWXYZabcdefghijklmnopqrstuvwxyz0123456789+/".toList

def base64Char (v : Nat) : Char := base64Alphabet.getD v '='

/-- Encodes groups of three bytes; the last group is padded. -/
def encodeBase64 : List UInt8 → List Char
  | [] => []
  | [a] =>
      let n := a.toNat * 16
      [base64Char (n / 64), base64Char (n % 64), '=', '=']
  | [a, b] =>
      let n := (a.toNat * 256 + b.toNat) * 4
      [base64Char (n / 4096), base64Char (n / 64 % 64), base64Char (n % 64), '=']
  | a :: b :: c :: rest =>
      let n := (a.toNat * 256 + b.toNat) * 256 + c.toNat
      base64Char (n / 262144) :: base64Char (n / 4096 % 64) :: base64Char (n / 64 % 64) ::
        base64Char (n % 64) :: encodeBase64 rest

end MobileAudit.Text
