/-!
# Ranges of characters

A property of characters that the Unicode standard lists is kept as rising ranges of code points,
the first and the last one of each.

* `Text.isIn` -- whether a character lies in one of the ranges.
-/

namespace RealtimeChat.Text

/-- Ranges of code points, first and last one of each. -/
abbrev Ranges := List (Nat × Nat)

/-- Whether a character lies in one of the ranges. -/
def isIn (ranges : Ranges) (c : Char) : Bool :=
  ranges.any fun r => r.1 ≤ c.toNat && c.toNat ≤ r.2

end RealtimeChat.Text
