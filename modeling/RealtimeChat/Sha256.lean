/-!
# The SHA-256 digest

A message is padded to blocks of 64 bytes, and each block is mixed into eight words in 64 rounds.

* `Sha256.pad`, `Sha256.schedule`, `Sha256.compress` -- the parts;
* `Sha256.digest` -- the 32 bytes of the digest, and `Sha256.hex`, its text.
-/

namespace RealtimeChat.Sha256

/-- The eight words that a message is mixed into. -/
structure State where
  a : UInt32
  b : UInt32
  c : UInt32
  d : UInt32
  e : UInt32
  f : UInt32
  g : UInt32
  h : UInt32
deriving DecidableEq

/-- The state before the first block: the square roots of the first eight primes. -/
def initial : State :=
  ⟨0x6a09e667, 0xbb67ae85, 0x3c6ef372, 0xa54ff53a,
    0x510e527f, 0x9b05688c, 0x1f83d9ab, 0x5be0cd19⟩

/-- The constants of the rounds: the cube roots of the first 64 primes. -/
def roundConstants : List UInt32 := [
  0x428a2f98, 0x71374491, 0xb5c0fbcf, 0xe9b5dba5, 0x3956c25b, 0x59f111f1,
  0x923f82a4, 0xab1c5ed5, 0xd807aa98, 0x12835b01, 0x243185be, 0x550c7dc3,
  0x72be5d74, 0x80deb1fe, 0x9bdc06a7, 0xc19bf174, 0xe49b69c1, 0xefbe4786,
  0x0fc19dc6, 0x240ca1cc, 0x2de92c6f, 0x4a7484aa, 0x5cb0a9dc, 0x76f988da,
  0x983e5152, 0xa831c66d, 0xb00327c8, 0xbf597fc7, 0xc6e00bf3, 0xd5a79147,
  0x06ca6351, 0x14292967, 0x27b70a85, 0x2e1b2138, 0x4d2c6dfc, 0x53380d13,
  0x650a7354, 0x766a0abb, 0x81c2c92e, 0x92722c85, 0xa2bfe8a1, 0xa81a664b,
  0xc24b8b70, 0xc76c51a3, 0xd192e819, 0xd6990624, 0xf40e3585, 0x106aa070,
  0x19a4c116, 0x1e376c08, 0x2748774c, 0x34b0bcb5, 0x391c0cb3, 0x4ed8aa4a,
  0x5b9cca4f, 0x682e6ff3, 0x748f82ee, 0x78a5636f, 0x84c87814, 0x8cc70208,
  0x90befffa, 0xa4506ceb, 0xbef9a3f7, 0xc67178f2]

/-- The bits of a word turned to the right. -/
def turn (x n : UInt32) : UInt32 := (x >>> n) ||| (x <<< (32 - n))

/-- The words of the rounds, from the sixteen words of a block. -/
def schedule : Nat → List UInt32 → List UInt32
  | n + 1, w :: w1 :: rest =>
    let at9 := rest.getD 7 0
    let at14 := rest.getD 12 0
    let s0 := turn w1 7 ^^^ turn w1 18 ^^^ (w1 >>> 3)
    let s1 := turn at14 17 ^^^ turn at14 19 ^^^ (at14 >>> 10)
    w :: schedule n (w1 :: rest ++ [w + s0 + at9 + s1])
  | _, _ => []

/-- One round. -/
def round (s : State) (k w : UInt32) : State :=
  let s1 := turn s.e 6 ^^^ turn s.e 11 ^^^ turn s.e 25
  let choice := (s.e &&& s.f) ^^^ (~~~s.e &&& s.g)
  let t1 := s.h + s1 + choice + k + w
  let s0 := turn s.a 2 ^^^ turn s.a 13 ^^^ turn s.a 22
  let majority := (s.a &&& s.b) ^^^ (s.a &&& s.c) ^^^ (s.b &&& s.c)
  ⟨t1 + s0 + majority, s.a, s.b, s.c, s.d + t1, s.e, s.f, s.g⟩

/-- Mix one block of sixteen words into the state. -/
def compress (s : State) (block : List UInt32) : State :=
  let t := (roundConstants.zip (schedule 64 block)).foldl (fun t kw => round t kw.1 kw.2) s
  ⟨s.a + t.a, s.b + t.b, s.c + t.c, s.d + t.d, s.e + t.e, s.f + t.f, s.g + t.g, s.h + t.h⟩

/-- The bytes of a number in `n` places, most significant first. -/
def bigEndian : Nat → Nat → List UInt8
  | 0, _ => []
  | n + 1, x => bigEndian n (x / 256) ++ [UInt8.ofNat (x % 256)]

/-- The message with a one bit, zeros and its length in bits behind it. -/
def pad (message : List UInt8) : List UInt8 :=
  let n := message.length
  message ++ 0x80 :: List.replicate ((119 - n % 64) % 64) 0 ++ bigEndian 8 (8 * n)

/-- The words that the bytes form, four bytes each. -/
def words : List UInt8 → List UInt32
  | a :: b :: c :: d :: rest =>
    ((a.toUInt32 <<< 24) ||| (b.toUInt32 <<< 16) ||| (c.toUInt32 <<< 8) ||| d.toUInt32) ::
      words rest
  | _ => []

/-- Mix the words into the state, sixteen at a time, at most `n` times. -/
def absorb : Nat → State → List UInt32 → State
  | 0, s, _ => s
  | n + 1, s, ws => if ws.isEmpty then s else absorb n (compress s (ws.take 16)) (ws.drop 16)

/-- The digest of a message. -/
def digest (message : List UInt8) : List UInt8 :=
  let ws := words (pad message)
  let s := absorb ws.length initial ws
  [s.a, s.b, s.c, s.d, s.e, s.f, s.g, s.h].flatMap (fun w => bigEndian 4 w.toNat)

/-- The lower-case hexadecimal digits of a byte. -/
def hexByte (b : UInt8) : List Char :=
  [Nat.digitChar (b.toNat / 16), Nat.digitChar (b.toNat % 16)]

/-- The digest of a message as 64 hexadecimal digits. -/
def hex (message : List UInt8) : String := String.ofList ((digest message).flatMap hexByte)

end RealtimeChat.Sha256
