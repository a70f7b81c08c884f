import RealtimeChat.Text.Mark
import RealtimeChat.Text.Unassigned
import RealtimeChat.Url.Domain.Canonical
import RealtimeChat.Url.Domain.Direction
import RealtimeChat.Url.Domain.Joining
import RealtimeChat.Url.Domain.Table
import RealtimeChat.Url.Punycode
/-!
# Domain names

A domain name is written with any script, and kept in ASCII: characters become the usual ones that
stand for them, and a label with characters beyond ASCII is written in digits and letters with a
mark in front. Names that could be taken for others are refused.

* `image?` -- what stands for a character in a name;
* `Label`, `Label.read?` -- one of the parts between the dots, in ASCII and as it is meant;
* `toAscii?` -- a name in ASCII.
-/

namespace RealtimeChat.Url.Domain

/-! ## 1. Characters -/

/-- Characters that may not stand in the name of a host. -/
def isForbidden (c : Char) : Bool :=
  c.toNat < 0x20 || c.toNat == 0x7F || " %#/:<>?@[\\]^|".toList.contains c

/-- What stands for a character by the runs of the table. -/
def runImage? (n : Nat) : Option (List Nat) :=
  (runs.find? fun r => r.first ≤ n && n ≤ r.last && (n - r.first) % r.step == 0).map
    fun r => [r.image + (n - r.first)]

/-- What stands for a character by the blocks of the table. -/
def blockImage? (n : Nat) : Option (List Nat) :=
  (blocks.find? fun b => b.1 ≤ n && n < b.1 + b.2.length).bind fun b => b.2[n - b.1]?

/-- What stands for a character in a name; `none` if it may not stand in one. -/
def image? (c : Char) : Option (List Char) :=
  if Text.isIn ignoredRanges c then some []
  else
    match (runImage? c.toNat).or (blockImage? c.toNat) with
    | some image => some (image.map Char.ofNat)
    | none => if Text.isUnassigned c || Text.isIn disallowedRanges c then none else some [c]

/-- Whether a character stands for itself. -/
def isUsual (c : Char) : Bool := image? c = some [c]

/-! ## 2. Labels -/

/-- The parts between the dots. -/
def labels (cs : List Char) : List (List Char) := cs.splitOn '.'

/-- A part of a name. -/
structure Label where
  /-- In ASCII. -/
  written : List Char
  /-- The characters that it stands for. -/
  meant : List Char
deriving DecidableEq, Repr

namespace Label

/-- The mark of a label that is written for characters beyond ASCII. -/
def mark : List Char := ['x', 'n', '-', '-']

/-- The most characters that are written in ASCII. -/
def longest : Nat := 1000

/-- Whether a label beyond ASCII may stand in a name: it starts with no mark, and its joiners are
in place. -/
def isProper (cs : List Char) : Bool := !cs.head?.any Text.isMark && joinersFit cs

/-- Whether a label could have come from reading a name: it is in composed form and holds nothing
but characters that stand for themselves. -/
def isSettled (cs : List Char) : Bool :=
  cs.all (fun c => isUsual c && !isForbidden c && c != '.') && Canonical.normalize cs = cs

/-- A label of usual characters. -/
def read? (cs : List Char) : Option Label :=
  if cs.any isForbidden then none
  else if mark.isPrefixOf cs then
    match Punycode.decode? (cs.drop mark.length) with
    | none => none
    | some meant =>
      if cs.length ≤ 2 * longest + mark.length ∧ meant.any (0x80 ≤ ·.toNat) ∧ isSettled meant ∧
          isProper meant then some ⟨cs, meant⟩
      else none
  else if cs.all (·.toNat < 0x80) then some ⟨cs, cs⟩
  else if cs.length ≤ longest ∧ isProper cs then some ⟨mark ++ Punycode.encode cs, cs⟩
  else none

/-- The directions of the characters that a label stands for. -/
def directions (l : Label) : List Direction := l.meant.map .of

end Label

/-! ## 3. Names -/

/-- Whether every label keeps to one direction, if any character is written from right to left. -/
def directionsKept (ls : List Label) : Bool :=
  !ls.any (fun l => l.directions.any Direction.isMixed) ||
    ls.all (fun l => Direction.isKept l.directions)

/-- A name in ASCII; `none` if it may not be used. -/
def toAscii? (name : List Char) : Option (List Char) := do
  let images ← name.mapM image?
  let ls ← (labels (Canonical.normalize images.flatten)).mapM Label.read?
  if directionsKept ls then some (['.'].intercalate (ls.map (·.written))) else none

end RealtimeChat.Url.Domain
