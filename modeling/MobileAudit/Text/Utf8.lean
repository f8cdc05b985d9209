namespace MobileAudit.Text

/-! Decoding of bytes that need not be well-formed text.  Every longest start of a character that
goes no further becomes one replacement character. -/

def replacement : Char := Char.ofNat 0xfffd

/-- The number of bytes that follow a first byte, and the range of the second byte. -/
def following? (first : UInt8) : Option (Nat × UInt8 × UInt8) :=
  if 0xc2 ≤ first && first ≤ 0xdf then some (1, 0x80, 0xbf)
  else if first == 0xe0 then some (2, 0xa0, 0xbf)
  else if first == 0xed then some (2, 0x80, 0x9f)
  else if 0xe1 ≤ first && first ≤ 0xef then some (2, 0x80, 0xbf)
  else if first == 0xf0 then some (3, 0x90, 0xbf)
  else if 0xf1 ≤ first && first ≤ 0xf3 then some (3, 0x80, 0xbf)
  else if first == 0xf4 then some (3, 0x80, 0x8f)
  else none

/-- The bits that a first byte contributes when `count` bytes follow it. -/
def firstBits (first : UInt8) (count : Nat) : Nat :=
  if count == 1 then first.toNat % 32 else if count == 2 then first.toNat % 16
  else first.toNat % 8

/-- A character that is being read: bytes still to come, bits so far and the range of the next
byte. -/
structure Pending where
  left : Nat
  code : Nat
  low : UInt8
  high : UInt8

/-- Decodes bytes after a possibly unfinished character, onto the characters read so far, last
first. -/
def decodeOnto (read : List Char) : Option Pending → List UInt8 → List Char
  | none, [] => read.reverse
  | some _, [] => (replacement :: read).reverse
  | pending, byte :: rest =>
      match pending with
      | some p =>
          if p.low ≤ byte && byte ≤ p.high then
            let code := p.code * 64 + byte.toNat % 64
            if p.left ≤ 1 then decodeOnto (Char.ofNat code :: read) none rest
            else decodeOnto read (some ⟨p.left - 1, code, 0x80, 0xbf⟩) rest
          else start (replacement :: read) byte rest
      | none => start read byte rest
where
  start (read : List Char) (byte : UInt8) (rest : List UInt8) : List Char :=
    if byte < 0x80 then decodeOnto (Char.ofNat byte.toNat :: read) none rest
    else match following? byte with
      | some (count, low, high) =>
          decodeOnto read (some ⟨count, firstBits byte count, low, high⟩) rest
      | none => decodeOnto (replacement :: read) none rest

/-- The text of the bytes, with replacement characters where they are no text. -/
def decodeLossy (bytes : ByteArray) : String :=
  match String.fromUTF8? bytes with
  | some text => text
  | none => String.ofList (decodeOnto [] none bytes.toList)

/-- The text of the bytes, nothing if they are no text. -/
def decode? (bytes : ByteArray) : Option String := String.fromUTF8? bytes

/-- Writes every line end as a newline. -/
def unifyLineEnds : List Char → List Char
  | [] => []
  | '\r' :: '\n' :: rest => '\n' :: unifyLineEnds rest
  | c :: rest => (if c == '\r' then '\n' else c) :: unifyLineEnds rest

def decodeFile? (bytes : ByteArray) : Option String :=
  (decode? bytes).map fun text => String.ofList (unifyLineEnds text.toList)

def encode (text : String) : ByteArray := text.toUTF8

end MobileAudit.Text
