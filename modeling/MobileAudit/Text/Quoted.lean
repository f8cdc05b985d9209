import MobileAudit.Text.Class

namespace MobileAudit.Text

/-! Quoted text as diagnostics show it: in single quotes unless only the other kind avoids an
escape, with escapes for what cannot be shown. -/

def hexDigit (n : Nat) : Char :=
  if n < 10 then Char.ofNat (48 + n) else Char.ofNat (87 + n)

/-- The last `width` hexadecimal digits of a number. -/
def hexDigits : Nat → Nat → List Char
  | 0, _ => []
  | width + 1, n => hexDigits width (n / 16) ++ [hexDigit (n % 16)]

def escapedCode (code : Nat) : List Char :=
  if code < 0x100 then '\\' :: 'x' :: hexDigits 2 code
  else if code < 0x10000 then '\\' :: 'u' :: hexDigits 4 code
  else '\\' :: 'U' :: hexDigits 8 code

def quoteChar (quote c : Char) : List Char :=
  if c == quote || c == '\\' then ['\\', c]
  else if c == '\n' then ['\\', 'n']
  else if c == '\r' then ['\\', 'r']
  else if c == '\t' then ['\\', 't']
  else if isPrintable c then [c]
  else escapedCode c.toNat

def quoteFor (text : List Char) : Char :=
  if text.contains '\'' && !text.contains '"' then '"' else '\''

def quotedChars (text : List Char) : List Char :=
  let quote := quoteFor text
  quote :: text.flatMap (quoteChar quote) ++ [quote]

def quoted (text : String) : String :=
  String.ofList (quotedChars text.toList)

/-- Quoted bytes: printable ASCII as it is, all else as a two-digit escape. -/
def quotedBytes (bytes : List UInt8) : String :=
  let chars := bytes.map fun b => Char.ofNat b.toNat
  let quote := quoteFor chars
  let write := fun c : Char =>
    if c.toNat < 0x80 then quoteChar quote c else escapedCode c.toNat
  String.ofList ('b' :: quote :: chars.flatMap write ++ [quote])

end MobileAudit.Text
