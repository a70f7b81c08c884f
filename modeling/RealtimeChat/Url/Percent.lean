/-!
# Percent encoding

Bytes that may not stand in a part of an address are written as a percent sign and two
hexadecimal digits. Which ones these are depends on the part.

* `Percent.encode` -- characters with those of a set encoded;
* `Percent.decode` -- the bytes that a text stands for;
* `Percent.path`, `pathSegment`, `query`, `fragment`, `userinfo` -- the sets.
-/

namespace RealtimeChat.Url.Percent

/-! ## 1. The sets -/

/-- Controls and everything beyond ASCII. -/
def controls (c : Char) : Bool := c.toNat < 0x20 || 0x7F ≤ c.toNat

/-- What is encoded in a fragment. -/
def fragment (c : Char) : Bool := controls c || " \"<>`".toList.contains c

/-- What is encoded in a query. -/
def query (c : Char) : Bool := controls c || " \"#<>'".toList.contains c

/-- What is encoded in a path. -/
def path (c : Char) : Bool := fragment c || "#?\x7b\x7d".toList.contains c

/-- What is encoded in a part of a path that is put in as a whole. -/
def pathSegment (c : Char) : Bool := path c || "/%\\".toList.contains c

/-- What is encoded in a user name or password. -/
def userinfo (c : Char) : Bool := path c || "/:;=@[\\]^|".toList.contains c

/-- What is encoded in a form: all but letters, digits and four marks. -/
def form (c : Char) : Bool := !(c.isAlphanum || "*-._".toList.contains c)

/-! ## 2. Writing and reading -/

/-- A hexadecimal digit in upper case. -/
def hexDigit (n : Nat) : Char := (Nat.digitChar n).toUpper

/-- A byte as a percent sign and two digits. -/
def encodeByte (b : UInt8) : List Char := ['%', hexDigit (b.toNat / 16), hexDigit (b.toNat % 16)]

/-- A character, encoded if it is in the set. -/
def encodeChar (set : Char → Bool) (c : Char) : List Char :=
  if set c then (String.utf8EncodeChar c).flatMap encodeByte else [c]

/-- Characters with those of the set encoded. -/
def encode (set : Char → Bool) (cs : List Char) : List Char := cs.flatMap (encodeChar set)

/-- The value of a hexadecimal digit. -/
def hexValue? (b : UInt8) : Option UInt8 :=
  if 48 ≤ b ∧ b ≤ 57 then some (b - 48)
  else if 65 ≤ b ∧ b ≤ 70 then some (b - 55)
  else if 97 ≤ b ∧ b ≤ 102 then some (b - 87)
  else none

/-- The bytes with every encoded one put back; a percent sign without two digits stays. -/
def decodeBytes : List UInt8 → List UInt8
  | 37 :: a :: b :: rest =>
    match hexValue? a, hexValue? b with
    | some x, some y => (x * 16 + y) :: decodeBytes rest
    | _, _ => 37 :: decodeBytes (a :: b :: rest)
  | b :: rest => b :: decodeBytes rest
  | [] => []

/-- The bytes that characters stand for. -/
def decode (cs : List Char) : List UInt8 := decodeBytes (cs.flatMap String.utf8EncodeChar)

end RealtimeChat.Url.Percent
