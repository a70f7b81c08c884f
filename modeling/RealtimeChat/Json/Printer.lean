import RealtimeChat.Json
import RealtimeChat.Number.Shortest
/-!
# The written form of a JSON value

Compact: no blanks, the members of an object in the order in which they are listed. In a text
the quotation mark, the backslash and the control characters of ASCII are escaped, and nothing
else is.

* `Json.escape` -- how one character of a text is written;
* `Json.render`, `Json.text` -- the written form.
-/

namespace RealtimeChat.Json

/-- One character of a text. -/
def escape (c : Char) : List Char :=
  match c with
  | '"' => ['\\', '"']
  | '\\' => ['\\', '\\']
  | '\x08' => ['\\', 'b']
  | '\x0c' => ['\\', 'f']
  | '\n' => ['\\', 'n']
  | '\r' => ['\\', 'r']
  | '\t' => ['\\', 't']
  | c => if c.toNat < 0x20 then ['\\', 'u'] ++ Decimal.hexPadded 4 c.toNat else [c]

/-- A text between its quotation marks. -/
def renderText (s : String) : List Char := '"' :: s.toList.flatMap escape ++ ['"']

/-- A number with the fewest digits that read back. -/
def renderNumber : Number → List Char
  | .integer n => Decimal.signed n
  | .float x => (Shortest.compact x).toList

mutual

/-- The written form, as a row of characters. -/
def render : Json → List Char
  | .null => ['n', 'u', 'l', 'l']
  | .bool true => ['t', 'r', 'u', 'e']
  | .bool false => ['f', 'a', 'l', 's', 'e']
  | .number n => renderNumber n
  | .string s => renderText s
  | .array items => '[' :: renderItems items ++ [']']
  | .object members => '{' :: renderMembers members ++ ['}']

/-- The items with commas between them. -/
def renderItems : List Json → List Char
  | [] => []
  | [v] => render v
  | v :: w :: rest => render v ++ ',' :: renderItems (w :: rest)

/-- The members with commas between them. -/
def renderMembers : List (String × Json) → List Char
  | [] => []
  | [(name, v)] => renderText name ++ ':' :: render v
  | (name, v) :: m :: rest => renderText name ++ ':' :: render v ++ ',' :: renderMembers (m :: rest)

end

/-- The written form. -/
def text (v : Json) : String := String.ofList v.render

end RealtimeChat.Json
