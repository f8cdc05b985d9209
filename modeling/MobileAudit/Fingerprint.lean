import MobileAudit.Text.Quoted

namespace MobileAudit.Fingerprint

/-! The fingerprint of a file is the SHA-256 digest of its bytes in hexadecimal. -/

def roundConstants : Array UInt32 := #[
  0x428a2f98, 0x71374491, 0xb5c0fbcf, 0xe9b5dba5, 0x3956c25b, 0x59f111f1, 0x923f82a4, 0xab1c5ed5,
  0xd807aa98, 0x12835b01, 0x243185be, 0x550c7dc3, 0x72be5d74, 0x80deb1fe, 0x9bdc06a7, 0xc19bf174,
  0xe49b69c1, 0xefbe4786, 0x0fc19dc6, 0x240ca1cc, 0x2de92c6f, 0x4a7484aa, 0x5cb0a9dc, 0x76f988da,
  0x983e5152, 0xa831c66d, 0xb00327c8, 0xbf597fc7, 0xc6e00bf3, 0xd5a79147, 0x06ca6351, 0x14292967,
  0x27b70a85, 0x2e1b2138, 0x4d2c6dfc, 0x53380d13, 0x650a7354, 0x766a0abb, 0x81c2c92e, 0x92722c85,
  0xa2bfe8a1, 0xa81a664b, 0xc24b8b70, 0xc76c51a3, 0xd192e819, 0xd6990624, 0xf40e3585, 0x106aa070,
  0x19a4c116, 0x1e376c08, 0x2748774c, 0x34b0bcb5, 0x391c0cb3, 0x4ed8aa4a, 0x5b9cca4f, 0x682e6ff3,
  0x748f82ee, 0x78a5636f, 0x84c87814, 0x8cc70208, 0x90befffa, 0xa4506ceb, 0xbef9a3f7, 0xc67178f2]

def rotate (x : UInt32) (n : UInt32) : UInt32 := (x >>> n) ||| (x <<< (32 - n))

structure Digest where
  a : UInt32
  b : UInt32
  c : UInt32
  d : UInt32
  e : UInt32
  f : UInt32
  g : UInt32
  h : UInt32

def Digest.initial : Digest :=
  ⟨0x6a09e667, 0xbb67ae85, 0x3c6ef372, 0xa54ff53a, 0x510e527f, 0x9b05688c, 0x1f83d9ab, 0x5be0cd19⟩

/-- The message with a mark, zeros and its length in bits, in whole blocks of 64 bytes. -/
def padded (bytes : ByteArray) : ByteArray :=
  let zeros := (119 - bytes.size % 64) % 64
  let bits := bytes.size * 8
  let marked := (List.range zeros).foldl (fun all _ => all.push 0) (bytes.push 0x80)
  (List.range 8).foldl
    (fun all i => all.push (UInt8.ofNat (bits / Nat.pow 256 (7 - i) % 256))) marked

def byteAt (bytes : ByteArray) (i : Nat) : UInt32 :=
  if h : i < bytes.size then bytes[i].toUInt32 else 0

def wordAt (bytes : ByteArray) (i : Nat) : UInt32 :=
  (byteAt bytes i <<< 24) ||| (byteAt bytes (i + 1) <<< 16) |||
    (byteAt bytes (i + 2) <<< 8) ||| byteAt bytes (i + 3)

/-- The sixty-four words that a block is stretched to. -/
def schedule (bytes : ByteArray) (start : Nat) : Array UInt32 :=
  let first := (List.range 16).foldl (fun ws i => ws.push (wordAt bytes (start + 4 * i))) #[]
  (List.range 48).foldl (fun ws i =>
    let t := i + 16
    let x := ws.getD (t - 15) 0
    let y := ws.getD (t - 2) 0
    let s0 := rotate x 7 ^^^ rotate x 18 ^^^ (x >>> 3)
    let s1 := rotate y 17 ^^^ rotate y 19 ^^^ (y >>> 10)
    ws.push (ws.getD (t - 16) 0 + s0 + ws.getD (t - 7) 0 + s1)) first

def Digest.round (words : Array UInt32) (s : Digest) (i : Nat) : Digest :=
  let s1 := rotate s.e 6 ^^^ rotate s.e 11 ^^^ rotate s.e 25
  let choice := (s.e &&& s.f) ^^^ ((~~~ s.e) &&& s.g)
  let t1 := s.h + s1 + choice + roundConstants.getD i 0 + words.getD i 0
  let s0 := rotate s.a 2 ^^^ rotate s.a 13 ^^^ rotate s.a 22
  let majority := (s.a &&& s.b) ^^^ (s.a &&& s.c) ^^^ (s.b &&& s.c)
  ⟨t1 + s0 + majority, s.a, s.b, s.c, s.d + t1, s.e, s.f, s.g⟩

def Digest.block (bytes : ByteArray) (s : Digest) (index : Nat) : Digest :=
  let words := schedule bytes (64 * index)
  let t := (List.range 64).foldl (Digest.round words) s
  ⟨s.a + t.a, s.b + t.b, s.c + t.c, s.d + t.d, s.e + t.e, s.f + t.f, s.g + t.g, s.h + t.h⟩

def Digest.hex (s : Digest) : String :=
  String.ofList ([s.a, s.b, s.c, s.d, s.e, s.f, s.g, s.h].flatMap fun w =>
    Text.hexDigits 8 w.toNat)

def ofBytes (bytes : ByteArray) : String :=
  let message := padded bytes
  ((List.range (message.size / 64)).foldl (Digest.block message) Digest.initial).hex

end MobileAudit.Fingerprint
