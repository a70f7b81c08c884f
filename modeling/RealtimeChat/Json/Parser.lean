import RealtimeChat.Json
/-!
# Reading JSON texts

Strict JSON: no comments, no trailing commas, no lone halves of a surrogate pair, no raw control
characters in texts, at most 127 values nested in each other. Each reader takes a row of
characters and returns what it read with the characters left over.

* `Json.SyntaxFault` -- why a text is not JSON;
* `Json.Parser.value` -- one value;
* `Json.parse` -- a whole text, with the members of each object sorted by name.
-/

namespace RealtimeChat.Json

/-- Why a text is not JSON. -/
inductive SyntaxFault where
  /-- The text stops inside a value. -/
  | unexpectedEnd
  /-- A character that cannot stand where it does. -/
  | unexpected (c : Char)
  /-- A number without a digit where one has to stand, or with a zero in front. -/
  | badNumber
  /-- A number beyond the floating point range. -/
  | numberTooLarge
  /-- An escape that is none, or half of a surrogate pair. -/
  | badEscape
  /-- A control character inside a text. -/
  | controlCharacter
  /-- Too many values nested in each other. -/
  | tooDeep
  /-- Something behind the value. -/
  | trailing
deriving DecidableEq, Repr

/-- The fault in words. -/
def SyntaxFault.message : SyntaxFault → String
  | .unexpectedEnd => "unexpected end of JSON text"
  | .unexpected c => "unexpected character " ++ c.toString ++ " in JSON text"
  | .badNumber => "invalid JSON number"
  | .numberTooLarge => "JSON number out of range"
  | .badEscape => "invalid escape in JSON text"
  | .controlCharacter => "control character in JSON text"
  | .tooDeep => "JSON value nested too deeply"
  | .trailing => "trailing characters behind JSON value"

namespace Parser

/-- What a reader found and what is left of the text. -/
abbrev Result (α : Type) := Except SyntaxFault (α × List Char)

/-! ## 1. Blanks and texts -/

/-- The blanks between the parts of a value. -/
def isSpace (c : Char) : Bool := c == ' ' || c == '\n' || c == '\t' || c == '\r'

/-- The characters without the blanks in front. -/
def dropSpace (cs : List Char) : List Char := cs.dropWhile isSpace

/-- Four hexadecimal digits. -/
def hex4 : List Char → Result Nat
  | a :: b :: c :: d :: rest =>
    match Decimal.hexValue? a, Decimal.hexValue? b, Decimal.hexValue? c, Decimal.hexValue? d with
    | some a, some b, some c, some d => .ok (((a * 16 + b) * 16 + c) * 16 + d, rest)
    | _, _, _, _ => .error .badEscape
  | _ => .error .unexpectedEnd

/-- The character that two halves of a surrogate pair stand for. -/
def joinSurrogates (high low : Nat) : Char :=
  Char.ofNat (0x10000 + (high - 0xD800) * 0x400 + (low - 0xDC00))

/-- The character behind `\u`. -/
def unicodeEscape (cs : List Char) : Result Char :=
  match hex4 cs with
  | .error f => .error f
  | .ok (n, rest) =>
    if 0xDC00 ≤ n ∧ n ≤ 0xDFFF then .error .badEscape
    else if 0xD800 ≤ n ∧ n ≤ 0xDBFF then
      match rest with
      | '\\' :: 'u' :: rest =>
        match hex4 rest with
        | .error f => .error f
        | .ok (m, rest) =>
          if 0xDC00 ≤ m ∧ m ≤ 0xDFFF then .ok (joinSurrogates n m, rest) else .error .badEscape
      | _ => .error .badEscape
    else .ok (Char.ofNat n, rest)

/-- The character behind a backslash. -/
def escaped : List Char → Result Char
  | '"' :: rest => .ok ('"', rest)
  | '\\' :: rest => .ok ('\\', rest)
  | '/' :: rest => .ok ('/', rest)
  | 'b' :: rest => .ok ('\x08', rest)
  | 'f' :: rest => .ok ('\x0c', rest)
  | 'n' :: rest => .ok ('\n', rest)
  | 'r' :: rest => .ok ('\r', rest)
  | 't' :: rest => .ok ('\t', rest)
  | 'u' :: rest => unicodeEscape rest
  | [] => .error .unexpectedEnd
  | _ => .error .badEscape

/-- The rest of a text, up to its closing mark; `done` holds the characters before, last first.
The first argument bounds the number of characters. -/
def textBody : Nat → List Char → List Char → Result String
  | 0, _, _ => .error .unexpectedEnd
  | fuel + 1, done, cs =>
    match cs with
    | [] => .error .unexpectedEnd
    | '"' :: rest => .ok (String.ofList done.reverse, rest)
    | '\\' :: rest =>
      match escaped rest with
      | .error f => .error f
      | .ok (c, rest) => textBody fuel (c :: done) rest
    | c :: rest =>
      if c.toNat < 0x20 then .error .controlCharacter else textBody fuel (c :: done) rest

/-- A text behind its opening mark. -/
def text (cs : List Char) : Result String := textBody (cs.length + 1) [] cs

/-! ## 2. Numbers -/

/-- The greatest significand that is kept exactly. -/
def maxSignificand : Nat := Nat.pow 2 64 - 1

/-- Append digits to a significand as long as it stays in range; the digits left over. -/
def absorb : Nat → List Char → Nat × List Char
  | m, [] => (m, [])
  | m, c :: rest =>
    let m' := m * 10 + Decimal.digitValue c
    if m' ≤ maxSignificand then absorb m' rest else (m, c :: rest)

/-- An integer of at most 64 bits is kept, any other one becomes a floating point number. -/
def integer (negative : Bool) (m : Nat) : Number :=
  if negative then
    if 0 < m ∧ m ≤ Nat.pow 2 63 then .integer (-m) else .float (Binary64.ofRatio true m 1)
  else .integer m

/-- The exponent behind `e`, if there is one. -/
def exponent (cs : List Char) : Result (Option Int) :=
  match cs with
  | c :: rest =>
    if c = 'e' ∨ c = 'E' then
      let (negative, rest) := match rest with
        | '+' :: rest => (false, rest)
        | '-' :: rest => (true, rest)
        | rest => (false, rest)
      match rest.takeWhile Char.isDigit with
      | [] => .error .badNumber
      | ds =>
        let n : Int := Decimal.value ds
        .ok (some (if negative then -n else n), rest.dropWhile Char.isDigit)
    else .ok (none, cs)
  | [] => .ok (none, [])

/-- The digits behind a point, if there is one. -/
def fraction (cs : List Char) : Result (Option (List Char)) :=
  match cs with
  | '.' :: rest =>
    match rest.takeWhile Char.isDigit with
    | [] => .error .badNumber
    | ds => .ok (some ds, rest.dropWhile Char.isDigit)
  | _ => .ok (none, cs)

/--
The number with these parts. Digits beyond the greatest significand are dropped: in front of the
point each counts as a factor of ten, behind the point they count as nothing.
-/
def assemble (negative : Bool) (whole : List Char) (frac : Option (List Char))
    (exp : Option Int) : Except SyntaxFault Number :=
  let (m, dropped) := absorb 0 whole
  match frac, exp, dropped with
  | none, none, [] => .ok (integer negative m)
  | _, _, _ =>
    let ds := frac.getD []
    let (m', left) := absorb m ds
    let e : Int := dropped.length - (ds.length - left.length : Nat) + exp.getD 0
    match Binary64.ofDecimal? negative m' e with
    | some x => .ok (.float x)
    | none => .error .numberTooLarge

/-- A number. -/
def number (cs : List Char) : Result Number :=
  let (negative, cs) := match cs with
    | '-' :: rest => (true, rest)
    | cs => (false, cs)
  let whole := cs.takeWhile Char.isDigit
  let rest := cs.dropWhile Char.isDigit
  match whole with
  | [] => .error .badNumber
  | '0' :: _ :: _ => .error .badNumber
  | _ =>
    match fraction rest with
    | .error f => .error f
    | .ok (frac, rest) =>
      match exponent rest with
      | .error f => .error f
      | .ok (exp, rest) =>
        match assemble negative whole frac exp with
        | .error f => .error f
        | .ok n => .ok (n, rest)

/-! ## 3. Values -/

/-- The rest of a word that stands for a value. -/
def word (v : Json) : List Char → List Char → Result Json
  | [], rest => .ok (v, rest)
  | w :: ws, c :: rest => if c = w then word v ws rest else .error (.unexpected c)
  | _ :: _, [] => .error .unexpectedEnd

mutual

/-- One value. The first argument bounds the steps, the second the values nested in it. -/
def value : Nat → Nat → List Char → Result Json
  | 0, _, _ => .error .unexpectedEnd
  | fuel + 1, depth, cs =>
    match dropSpace cs with
    | [] => .error .unexpectedEnd
    | 'n' :: rest => word .null ['u', 'l', 'l'] rest
    | 't' :: rest => word (.bool true) ['r', 'u', 'e'] rest
    | 'f' :: rest => word (.bool false) ['a', 'l', 's', 'e'] rest
    | '"' :: rest =>
      match text rest with
      | .error f => .error f
      | .ok (s, rest) => .ok (.string s, rest)
    | '[' :: rest =>
      match depth with
      | 0 => .error .tooDeep
      | depth + 1 =>
        match dropSpace rest with
        | ']' :: rest => .ok (.array [], rest)
        | rest =>
          match items fuel depth rest with
          | .error f => .error f
          | .ok (vs, rest) => .ok (.array vs, rest)
    | '{' :: rest =>
      match depth with
      | 0 => .error .tooDeep
      | depth + 1 =>
        match dropSpace rest with
        | '}' :: rest => .ok (.object [], rest)
        | rest =>
          match members fuel depth rest with
          | .error f => .error f
          | .ok (ms, rest) => .ok (.object ms, rest)
    | c :: rest =>
      if c = '-' ∨ c.isDigit then
        match number (c :: rest) with
        | .error f => .error f
        | .ok (n, rest) => .ok (.number n, rest)
      else .error (.unexpected c)

/-- The items of an array and its closing bracket. -/
def items : Nat → Nat → List Char → Result (List Json)
  | 0, _, _ => .error .unexpectedEnd
  | fuel + 1, depth, cs =>
    match value fuel depth cs with
    | .error f => .error f
    | .ok (v, rest) =>
      match dropSpace rest with
      | ']' :: rest => .ok ([v], rest)
      | ',' :: rest =>
        match items fuel depth rest with
        | .error f => .error f
        | .ok (vs, rest) => .ok (v :: vs, rest)
      | [] => .error .unexpectedEnd
      | c :: _ => .error (.unexpected c)

/-- The members of an object and its closing brace. -/
def members : Nat → Nat → List Char → Result (List (String × Json))
  | 0, _, _ => .error .unexpectedEnd
  | fuel + 1, depth, cs =>
    match dropSpace cs with
    | '"' :: rest =>
      match text rest with
      | .error f => .error f
      | .ok (name, rest) =>
        match dropSpace rest with
        | ':' :: rest =>
          match value fuel depth rest with
          | .error f => .error f
          | .ok (v, rest) =>
            match dropSpace rest with
            | '}' :: rest => .ok ([(name, v)], rest)
            | ',' :: rest =>
              match members fuel depth rest with
              | .error f => .error f
              | .ok (ms, rest) => .ok ((name, v) :: ms, rest)
            | [] => .error .unexpectedEnd
            | c :: _ => .error (.unexpected c)
        | [] => .error .unexpectedEnd
        | c :: _ => .error (.unexpected c)
    | [] => .error .unexpectedEnd
    | c :: _ => .error (.unexpected c)

end

/-- How many values may be nested in each other. -/
def maxDepth : Nat := 127

end Parser

/-- The value that a whole text is written for, as it is listed there. -/
def parseListed (s : String) : Except SyntaxFault Json :=
  let cs := s.toList
  match Parser.value (2 * cs.length + 2) Parser.maxDepth cs with
  | .error f => .error f
  | .ok (v, rest) => if (Parser.dropSpace rest).isEmpty then .ok v else .error .trailing

/-- The value that a whole text is written for, its objects sorted by name. -/
def parse (s : String) : Except SyntaxFault Json := (parseListed s).map Json.sorted

end RealtimeChat.Json
