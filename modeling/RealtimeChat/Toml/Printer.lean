import RealtimeChat.Number.Decimal
import RealtimeChat.Number.Shortest
import RealtimeChat.Toml
/-!
# Writing settings files

A settings file is written as sections of named values, with an empty line between two sections.
A text is written in the plainest way that needs no escapes; only if there is none, with escapes.

* `Toml.textValue` -- the written form of a text;
* `Toml.write` -- a whole file.
-/

namespace RealtimeChat.Toml

/-! ## 1. Texts -/

/-- The longest row of one character. -/
def longestRow (mark : Char) (cs : List Char) : Nat :=
  (cs.foldl (fun (best, row) c =>
    let row := if c = mark then row + 1 else 0
    (max best row, row)) ((0, 0) : Nat × Nat)).1

/-- Whether a character can only be written with an escape. -/
def needsEscape (c : Char) : Bool :=
  (c.toNat < 0x20 && c != '\t' && c != '\n') || c.toNat == 0x7F

/-- The four upper-case hexadecimal digits of a number. -/
def hex4 (n : Nat) : List Char :=
  (Decimal.hexPadded 4 n).map Char.toUpper

/-- A text with escapes. In a text of several lines line ends stand as they are, and so do up to
two quotes in a row; `row` counts the quotes in front. -/
def escape (severalLines : Bool) (row : Nat) : List Char → List Char
  | [] => []
  | c :: rest =>
    if c = '"' then
      if severalLines ∧ row < 2 then '"' :: escape severalLines (row + 1) rest
      else '\\' :: '"' :: escape severalLines 0 rest
    else
      let cs := match c with
        | '\x08' => ['\\', 'b']
        | '\t' => ['\\', 't']
        | '\n' => if severalLines then ['\n'] else ['\\', 'n']
        | '\x0c' => ['\\', 'f']
        | '\r' => ['\\', 'r']
        | '\\' => ['\\', '\\']
        | c => if needsEscape c then '\\' :: 'u' :: hex4 c.toNat else [c]
      cs ++ escape severalLines 0 rest

/-- A text of one line with escapes. -/
def basic (cs : List Char) : List Char := '"' :: escape false 0 cs ++ ['"']

/-- A line end behind the opening marks of a text that has line ends itself. -/
def opening (cs : List Char) : List Char := if '\n' ∈ cs then ['\n'] else []

/-- A text of several lines with escapes. -/
def basicLines (cs : List Char) : List Char :=
  ['"', '"', '"'] ++ opening cs ++ escape true 0 cs ++ ['"', '"', '"']

/-- A text of one line without escapes. -/
def literal (cs : List Char) : List Char := '\'' :: cs ++ ['\'']

/-- A text of several lines without escapes. -/
def literalLines (cs : List Char) : List Char :=
  ['\'', '\'', '\''] ++ opening cs ++ cs ++ ['\'', '\'', '\'']

/-- The written form of a text. -/
def textValue (s : String) : String :=
  let cs := s.toList
  let controls := cs.any needsEscape
  let newline := '\n' ∈ cs
  let backslash := '\\' ∈ cs
  let quotes := longestRow '"' cs
  let apostrophes := longestRow '\'' cs
  String.ofList (
    if !controls ∧ !backslash ∧ quotes = 0 ∧ !newline then basic cs
    else if !controls ∧ apostrophes = 0 ∧ !newline then literal cs
    else if !controls ∧ !backslash ∧ quotes ≤ 2 then basicLines cs
    else if !controls ∧ apostrophes ≤ 2 then literalLines cs
    else if newline then basicLines cs
    else basic cs)

/-! ## 2. Files -/

/-- A value as it is written. -/
inductive Scalar where
  | text (s : String)
  /-- Integers have at most 63 bits and a sign. -/
  | natural (n : Nat)
  | float (x : Binary64)

/-- The written form of a value. -/
def Scalar.write : Scalar → Except Fault String
  | .text s => .ok (textValue s)
  | .natural n => if n < Nat.pow 2 63 then .ok (toString n) else .error .outOfRange
  | .float x => .ok (match x with
    | .notANumber => "nan"
    | x => Shortest.positional x)

/-- A section: its heading and the lines below it. -/
def writeSection (heading : String) (values : List (String × Scalar)) : Except Fault String := do
  let lines ← values.mapM fun (name, v) => do .ok (name ++ " = " ++ (← v.write) ++ "\n")
  .ok ("[" ++ heading ++ "]\n" ++ String.join lines)

/-- A file of sections. -/
def write (sections : List (String × List (String × Scalar))) : Except Fault String := do
  let written ← sections.mapM fun (heading, values) => writeSection heading values
  .ok (String.intercalate "\n" written)

end RealtimeChat.Toml
