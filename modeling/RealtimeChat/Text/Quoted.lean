import RealtimeChat.Number.Decimal
import RealtimeChat.Text.Printable
/-!
# Quoted texts in messages

A text that a message names stands between quotation marks, with every character that a reader
would not see written as an escape.

* `escape` -- how one character is written;
* `quoted` -- a whole text.
-/

namespace RealtimeChat.Text

/-- A character between quotation marks: short escapes for the usual controls, the mark and the
backslash, the code point in braces for whatever has no glyph. -/
def escape (c : Char) : List Char :=
  match c with
  | '\x00' => ['\\', '0']
  | '\t' => ['\\', 't']
  | '\n' => ['\\', 'n']
  | '\r' => ['\\', 'r']
  | '"' => ['\\', '"']
  | '\\' => ['\\', '\\']
  | c =>
    if c.toNat < 0x20 ∨ isHidden c then
      ['\\', 'u', '\x7b'] ++ Nat.toDigits 16 c.toNat ++ ['\x7d']
    else [c]

/-- A text between quotation marks. -/
def quoted (s : String) : String :=
  String.ofList ('"' :: s.toList.flatMap escape ++ ['"'])

end RealtimeChat.Text
