import MobileAudit.Console.Literal.Fault
import MobileAudit.Text.CharName

namespace MobileAudit.Literal

/-! Escapes in texts.  Places are counted in bytes; a character beyond ASCII takes ten of them, as
many as its longest escape. -/

/-- Escapes by code: their letters, numbers of digits and what is said if digits are missing. -/
def codeLetters : List (Char × Nat × String) :=
  [('x', 2, "truncated \\xXX escape"), ('u', 4, "truncated \\uXXXX escape"),
    ('U', 8, "truncated \\UXXXXXXXX escape")]

def width (text : List Char) : Nat :=
  text.foldl (fun sum c => sum + if c.toNat < 0x80 then 1 else 10) 0

/-- Whether hexadecimal digits stand for a code point. -/
def isCodePoint (digits : List Char) : Bool :=
  ((Text.upperHex? (digits.map Char.toUpper)).getD 0) ≤ 0x10ffff

/-- Looks at an escape after its backslash: the number of characters it takes, or the number up to
the fault and the fault. -/
def escapeAt (text : List Char) : Except (Nat × String) Nat :=
  match text with
  | 'N' :: rest =>
      match rest with
      | '\x7b' :: rest =>
          let name := rest.takeWhile (· != '\x7d')
          if name.length == rest.length then
            .error (2 + name.length, "malformed \\N character escape")
          else if name.isEmpty then .error (2, "malformed \\N character escape")
          else if (Text.codeNamed? name).isSome then .ok (3 + name.length)
          else .error (3 + name.length, "unknown Unicode character name")
      | _ => .error (1, "malformed \\N character escape")
  | c :: rest =>
      match codeLetters.lookup c with
      | some (count, reason) =>
          let digits := (rest.take count).takeWhile Text.isHexDigit
          if digits.length < count then .error (1 + digits.length, reason)
          else if isCodePoint digits then .ok (1 + count)
          else .error (1 + count, "illegal Unicode character")
      | none => .ok 1
  | [] => .ok 0

def checkEscapes : Nat → Nat → List Char → Except Fault Unit
  | 0, _, _ => .ok ()
  | _, _, [] => .ok ()
  | fuel + 1, place, '\\' :: rest =>
      if rest.head?.any fun c => 0x80 ≤ c.toNat then checkEscapes fuel (place + 6) rest
      else
        match escapeAt rest with
        | .ok count =>
            checkEscapes fuel (place + 1 + width (rest.take count)) (rest.drop count)
        | .error (count, reason) =>
            .error (.badEscape place (place + width (rest.take count)) reason)
  | fuel + 1, place, c :: rest => checkEscapes fuel (place + width [c]) rest

def checkByteEscapes : Nat → List Char → Except Fault Unit
  | _, [] => .ok ()
  | place, '\\' :: 'x' :: a :: b :: rest =>
      if Text.isHexDigit a && Text.isHexDigit b then checkByteEscapes (place + 4) rest
      else .error (.badByteEscape place)
  | place, '\\' :: 'x' :: _ => .error (.badByteEscape place)
  | place, '\\' :: _ :: rest => checkByteEscapes (place + 2) rest
  | place, _ :: rest => checkByteEscapes (place + 1) rest

def checkText (letters body : List Char) : Except Fault Unit :=
  let raw := letters.contains 'r'
  if letters.contains 'b' then
    if body.any fun c => 0x80 ≤ c.toNat then .error .bytesNotAscii
    else if raw then .ok () else checkByteEscapes 0 body
  else if raw || letters.contains 'f' then .ok ()
  else checkEscapes (body.length + 1) 0 body

end MobileAudit.Literal
