/-!
# Blank characters

The characters with the property White_Space: 25 code points, of which six are control characters
of ASCII. A text made of them alone counts as empty.

* `isBlank` -- the property;
* `allBlank` -- a text that shows nothing.
-/

namespace RealtimeChat.Text

/-- The property White_Space. -/
def isBlank (c : Char) : Bool :=
  let n := c.toNat
  (9 ≤ n && n ≤ 13) || n == 0x20 || n == 0x85 || n == 0xA0 || n == 0x1680 ||
    (0x2000 ≤ n && n ≤ 0x200A) || n == 0x2028 || n == 0x2029 || n == 0x202F || n == 0x205F ||
    n == 0x3000

/-- Whether a text holds blank characters only. -/
def allBlank (s : String) : Bool := s.toList.all isBlank

/-- The characters without the blank ones in front. -/
def dropBlank (cs : List Char) : List Char := cs.dropWhile isBlank

end RealtimeChat.Text
