import RealtimeChat.Url.Domain.Canonical.Table
/-!
# The composed form of a name

One name can be written with different characters: a letter with a mark is one character or two,
and marks that do not touch each other stand in any order. The composed form takes every
character apart, puts the marks in order, and joins what can be joined, so that equal names are
written alike. It is meant for the characters that a name is made of once capitals and variants
are replaced.

* `decompose` -- a character taken apart;
* `arrange` -- the marks behind each letter in order of their class;
* `compose` -- letters joined with their marks;
* `normalize` -- the composed form.
-/

namespace RealtimeChat.Url.Domain.Canonical

/-! ## 1. Characters -/

/-- The class of a mark; 0 for every other character. -/
def markClass (c : Char) : Nat :=
  match markClasses.find? fun r => r.1 ≤ c.toNat && c.toNat ≤ r.2.1 with
  | some (_, _, cls) => cls
  | none => 0

/-- A Korean syllable as its first two letters, which are one character, and its third, or as two
letters: there are 28 third letters with the absent one, and 21 second letters. -/
def splitSyllable? (n : Nat) : Option (Nat × Nat) :=
  if 0xAC00 ≤ n ∧ n < 0xAC00 + 19 * 21 * 28 then
    let i := n - 0xAC00
    some (if i % 28 = 0 then (0x1100 + i / 588, 0x1161 + i % 588 / 28)
      else (n - i % 28, 0x11A7 + i % 28))
  else none

/-- The Korean syllable of a first and a second letter, or of two letters and a third one. -/
def joinSyllable? (a b : Nat) : Option Nat :=
  if 0x1100 ≤ a ∧ a < 0x1100 + 19 ∧ 0x1161 ≤ b ∧ b < 0x1161 + 21 then
    some (0xAC00 + ((a - 0x1100) * 21 + (b - 0x1161)) * 28)
  else if 0xAC00 ≤ a ∧ a < 0xAC00 + 19 * 21 * 28 ∧ (a - 0xAC00) % 28 = 0 ∧
      0x11A7 < b ∧ b < 0x11A7 + 28 then
    some (a + (b - 0x11A7))
  else none

/-- The two characters that a character is made of. -/
def split? (c : Char) : Option (Char × Char) :=
  let pair : Option (Nat × Nat) :=
    (splitSyllable? c.toNat).or ((composites.find? (·.1 == c.toNat)).map (·.2))
  pair.map fun (a, b) => (Char.ofNat a, Char.ofNat b)

/-- The character that is made of two. -/
def join? (a b : Char) : Option Char :=
  let whole : Option Nat :=
    (joinSyllable? a.toNat b.toNat).or
      ((composites.find? (·.2 == (a.toNat, b.toNat))).map (·.1))
  whole.map Char.ofNat

/-! ## 2. Taking apart -/

/-- A character taken apart at most so many times. -/
def decomposeWithin : Nat → Char → List Char
  | 0, c => [c]
  | depth + 1, c =>
    match split? c with
    | none => [c]
    | some (a, b) => decomposeWithin depth a ++ [b]

/-- A character taken apart; none has more than three marks. -/
def decompose (c : Char) : List Char := decomposeWithin 4 c

/-- Put a character behind others, which come last one first: a mark goes in front of marks of a
higher class. -/
def place (c : Char) : List Char → List Char
  | [] => [c]
  | last :: front =>
    if markClass c ≠ 0 ∧ markClass c < markClass last then last :: place c front
    else c :: last :: front

/-- The marks behind each letter in order of their class, those of one class as they stand. -/
def arrange (cs : List Char) : List Char := (cs.foldl (fun back c => place c back) []).reverse

/-! ## 3. Joining -/

/-- Characters that are being joined. -/
structure Joining where
  /-- What is finished, the last one first. -/
  finished : List Char := []
  /-- The character that others may join. -/
  base : Option Char := none
  /-- The marks behind it that did not join it, the last one first. -/
  marks : List Char := []
deriving DecidableEq, Repr

namespace Joining

/-- All that was read, the last one first. -/
def all (j : Joining) : List Char := j.marks ++ j.base.toList ++ j.finished

/-- Read another character. It joins the base unless a mark of the same or a higher class stands
between them. -/
def read (j : Joining) (c : Char) : Joining :=
  let joined := match j.base, j.marks with
    | none, _ => none
    | some base, [] => join? base c
    | some base, mark :: _ => if markClass mark < markClass c then join? base c else none
  match joined with
  | some whole => { j with base := some whole }
  | none =>
    if markClass c = 0 then ⟨j.all, some c, []⟩
    else if j.base.isNone then { j with finished := c :: j.finished }
    else { j with marks := c :: j.marks }

end Joining

/-- Letters joined with the marks behind them. -/
def compose (cs : List Char) : List Char := (cs.foldl Joining.read {}).all.reverse

/-- The composed form. -/
def normalize (cs : List Char) : List Char := compose (arrange (cs.flatMap decompose))

end RealtimeChat.Url.Domain.Canonical
