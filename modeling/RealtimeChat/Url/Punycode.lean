/-!
# Labels of domain names in ASCII

A label with characters beyond ASCII is written as its ASCII characters and, behind a hyphen, a
row of letters and digits that says which other characters stand where. Differences are written
with digits of base 36 whose weights adapt to the differences seen before.

* `Punycode.encode` -- the written form, without the mark in front;
* `Punycode.decode?` -- the characters that a written form stands for.
-/

namespace RealtimeChat.Url.Punycode

/-- A digit of base 36. -/
def digit (n : Nat) : Char := if n < 26 then Char.ofNat (97 + n) else Char.ofNat (48 + n - 26)

/-- The value of a digit of base 36. -/
def value? (c : Char) : Option Nat :=
  if 'a' ≤ c ∧ c ≤ 'z' then some (c.toNat - 97)
  else if 'A' ≤ c ∧ c ≤ 'Z' then some (c.toNat - 65)
  else if c.isDigit then some (c.toNat - 48 + 26)
  else none

/-- The value from which on a digit at place `k` is not the last one. -/
def threshold (k bias : Nat) : Nat := min 26 (max 1 (k - bias))

/-- The bias after a difference; `fuel` bounds the halvings. -/
def adaptFrom : Nat → Nat → Nat → Nat
  | 0, _, k => k
  | fuel + 1, delta, k =>
    if 455 < delta then adaptFrom fuel (delta / 35) (k + 36) else k + 36 * delta / (delta + 38)

/-- The bias after a difference, with the number of characters written so far. -/
def adapt (delta count : Nat) (first : Bool) : Nat :=
  let delta := if first then delta / 700 else delta / 2
  adaptFrom 64 (delta + delta / count) 0

/-- The digits of a difference, from place `k` on. -/
def digits : Nat → Nat → Nat → Nat → List Char
  | 0, _, _, _ => []
  | fuel + 1, bias, k, q =>
    let t := threshold k bias
    if q < t then [digit q]
    else digit (t + (q - t) % (36 - t)) :: digits fuel bias (k + 36) ((q - t) / (36 - t))

/-- What is written so far, the running difference, the bias and the number of characters. -/
structure Progress where
  out : List Char
  delta : Nat
  bias : Nat
  count : Nat

/-- Write where the character `n` stands, if `c` is it, and count what stands in front. -/
def writeAt (basic n : Nat) (p : Progress) (c : Char) : Progress :=
  if c.toNat < n then { p with delta := p.delta + 1 }
  else if c.toNat = n then
    ⟨p.out ++ digits 64 p.bias 36 p.delta, 0, adapt p.delta (p.count + 1) (p.count = basic),
      p.count + 1⟩
  else p

/-- Write the characters beyond ASCII by rising code point; `n` is the next one possible. -/
def writeAll (cs : List Char) (basic : Nat) : List Nat → Nat → Progress → Progress
  | [], _, p => p
  | m :: rest, n, p =>
    let p := cs.foldl (writeAt basic m) { p with delta := p.delta + (m - n) * (p.count + 1) }
    writeAll cs basic rest (m + 1) { p with delta := p.delta + 1 }

/-- The written form of a label. -/
def encode (cs : List Char) : List Char :=
  let basic := cs.filter (·.toNat < 0x80)
  let others := ((cs.filter (0x80 ≤ ·.toNat)).map (·.toNat)).mergeSort.eraseDups
  let start := basic ++ if basic.isEmpty then [] else ['-']
  (writeAll cs basic.length others 0x80 ⟨start, 0, 72, basic.length⟩).out

/-- One difference: its value and what is left. -/
def readNumber (bias : Nat) : Nat → Nat → Nat → List Char → Option (Nat × List Char)
  | _, _, _, [] => none
  | k, weight, i, c :: rest =>
    match value? c with
    | none => none
    | some d =>
      let i := i + d * weight
      let t := threshold k bias
      if d < t then some (i, rest) else readNumber bias (k + 36) (weight * (36 - t)) i rest

/-- Put in the characters that the differences stand for; `fuel` bounds their number. -/
def readAll : Nat → Nat → Nat → Nat → List Char → List Char → Option (List Char)
  | _, _, _, _, out, [] => some out
  | 0, _, _, _, _, _ => none
  | fuel + 1, n, i, bias, out, cs =>
    match readNumber bias 36 1 i cs with
    | none => none
    | some (i', rest) =>
      let count := out.length + 1
      let n := n + i' / count
      if n ≤ 0x10FFFF ∧ ¬(0xD800 ≤ n ∧ n ≤ 0xDFFF) then
        let place := i' % count
        readAll fuel n (place + 1) (adapt (i' - i) count (i = 0))
          (out.take place ++ Char.ofNat n :: out.drop place) rest
      else none

/-- The characters that a written form stands for. -/
def decode? (cs : List Char) : Option (List Char) :=
  let tail := (cs.reverse.takeWhile (· ≠ '-')).reverse
  let basic := cs.take (cs.length - tail.length - 1)
  if basic.all (·.toNat < 0x80) then readAll cs.length 0x80 0 72 basic tail else none

end RealtimeChat.Url.Punycode
