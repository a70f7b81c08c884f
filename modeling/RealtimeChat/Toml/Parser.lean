import RealtimeChat.Number.Decimal
import RealtimeChat.Toml
/-!
# Reading settings files

A settings file is read line by line: a heading, a named value, or nothing but blanks and a
comment. Each reader takes a row of characters and returns what it read with the characters left
over.

* `Toml.Parser.value` -- one value, `Toml.Parser.word` one that is neither text nor container;
* `Toml.parse` -- the table that a whole file is written for.
-/

namespace RealtimeChat.Toml

namespace Parser

/-! ## 1. Blanks, comments and line ends -/

/-- The blanks within a line. -/
def isBlank (c : Char) : Bool := c == ' ' || c == '\t'

/-- The characters without the blanks in front. -/
def dropBlanks (cs : List Char) : List Char := cs.dropWhile isBlank

/-- The characters that may stand in texts and comments as they are. -/
def isPlain (c : Char) : Bool := c == '\t' || (0x20 ≤ c.toNat && c.toNat != 0x7F)

/-- The characters without the comment in front, if there is one. -/
def dropComment : List Char → List Char
  | '#' :: rest => rest.dropWhile isPlain
  | cs => cs

/-- The rest behind a line end, if one stands in front. -/
def newline? : List Char → Option (List Char)
  | '\n' :: rest => some rest
  | '\r' :: '\n' :: rest => some rest
  | _ => none

/-- The rest behind the end of a line: blanks, a comment and a line end, or the end of the text. -/
def lineEnd (cs : List Char) : Except Fault (List Char) :=
  match dropComment (dropBlanks cs) with
  | [] => .ok []
  | c :: cs =>
    match newline? (c :: cs) with
    | some rest => .ok rest
    | none => .error (.unexpected c)

/-- The characters without blanks, comments and line ends in front. The first argument bounds the
number of lines. -/
def dropLines : Nat → List Char → List Char
  | 0, cs => cs
  | fuel + 1, cs =>
    let cs := dropComment (dropBlanks cs)
    match newline? cs with
    | some rest => dropLines fuel rest
    | none => cs

/-- The characters without blanks and line ends in front. The first argument bounds the number of
lines. -/
def dropBlankLines : Nat → List Char → List Char
  | 0, cs => cs
  | fuel + 1, cs =>
    let cs := dropBlanks cs
    match newline? cs with
    | some rest => dropBlankLines fuel rest
    | none => cs

/-- The characters behind one that has to stand in front. -/
def expect (wanted : Char) : List Char → Except Fault (List Char)
  | [] => .error .unexpectedEnd
  | c :: rest => if c = wanted then .ok rest else .error (.unexpected c)

/-! ## 2. Texts -/

/-- The character with a number that is given by hexadecimal digits. -/
def codePoint (digits : Nat) (cs : List Char) : Except Fault (Char × List Char) :=
  match (cs.take digits).mapM Decimal.hexValue? with
  | none => .error .badEscape
  | some ds =>
    let n := ds.foldl (fun n d => n * 16 + d) 0
    if ds.length = digits ∧ n.isValidChar then .ok (Char.ofNat n, cs.drop digits)
    else .error .badEscape

/-- The character behind a backslash. -/
def escaped : List Char → Except Fault (Char × List Char)
  | '"' :: rest => .ok ('"', rest)
  | '\\' :: rest => .ok ('\\', rest)
  | 'b' :: rest => .ok ('\x08', rest)
  | 'f' :: rest => .ok ('\x0c', rest)
  | 'n' :: rest => .ok ('\n', rest)
  | 'r' :: rest => .ok ('\r', rest)
  | 't' :: rest => .ok ('\t', rest)
  | 'u' :: rest => codePoint 4 rest
  | 'U' :: rest => codePoint 8 rest
  | [] => .error .unexpectedEnd
  | _ => .error .badEscape

/-- The rest of a text with escapes, up to its closing mark; `done` holds the characters before,
last first. The first argument bounds the number of characters. -/
def basicBody : Nat → List Char → List Char → Except Fault (String × List Char)
  | 0, _, _ => .error .unexpectedEnd
  | fuel + 1, done, cs =>
    match cs with
    | [] => .error .unexpectedEnd
    | '"' :: rest => .ok (String.ofList done.reverse, rest)
    | '\\' :: rest => do
      let (c, rest) ← escaped rest
      basicBody fuel (c :: done) rest
    | c :: rest => if isPlain c then basicBody fuel (c :: done) rest else .error (.unexpected c)

/-- A text with escapes, behind its opening mark. -/
def basicText (cs : List Char) : Except Fault (String × List Char) :=
  basicBody (cs.length + 1) [] cs

/-- A text without escapes, behind its opening mark. -/
def literalText (cs : List Char) : Except Fault (String × List Char) :=
  let s := cs.takeWhile (fun c => c != '\'' && isPlain c)
  match cs.drop s.length with
  | '\'' :: rest => .ok (String.ofList s, rest)
  | [] => .error .unexpectedEnd
  | c :: _ => .error (.unexpected c)

/-- How many closing marks in front belong to the text, if it ends here: a row of three to five
ends it, and those beyond three are part of it. -/
def closing? (mark : Char) (cs : List Char) : Option (Nat × List Char) :=
  let marks := min ((cs.takeWhile (· == mark)).length) 5
  if 3 ≤ marks then some (marks - 3, cs.drop marks) else none

/-- The rest of a text of several lines, up to its closing marks; `done` holds the characters
before, last first. The first argument bounds the number of characters. -/
def linesBody (mark : Char) (escapes : Bool) :
    Nat → List Char → List Char → Except Fault (String × List Char)
  | 0, _, _ => .error .unexpectedEnd
  | fuel + 1, done, cs =>
    match closing? mark cs with
    | some (n, rest) => .ok (String.ofList (done.reverse ++ List.replicate n mark), rest)
    | none =>
      match newline? cs with
      | some rest => linesBody mark escapes fuel ('\n' :: done) rest
      | none =>
        match cs with
        | [] => .error .unexpectedEnd
        | c :: rest =>
          if c = '\\' ∧ escapes then
            match newline? (dropBlanks rest) with
            | some rest => linesBody mark escapes fuel done (dropBlankLines rest.length.succ rest)
            | none => do
              let (c, rest) ← escaped rest
              linesBody mark escapes fuel (c :: done) rest
          else if isPlain c then linesBody mark escapes fuel (c :: done) rest
          else .error (.unexpected c)

/-- A text of several lines, behind its opening marks; a line end right behind them is not part of
it. -/
def linesText (mark : Char) (escapes : Bool) (cs : List Char) : Except Fault (String × List Char) :=
  let cs := (newline? cs).getD cs
  linesBody mark escapes (cs.length + 1) [] cs

/-! ## 3. Words -/

/-- The digits of a number without the lines between them, each of which has to stand between two
digits. -/
def digits? (isDigit : Char → Bool) : List Char → Option (List Char)
  | [] => none
  | [c] => if isDigit c then some [c] else none
  | c :: '_' :: rest => if isDigit c then (digits? isDigit rest).map (c :: ·) else none
  | c :: rest => if isDigit c then (digits? isDigit rest).map (c :: ·) else none

/-- The digits of a decimal number that has no zero in front. -/
def decimalDigits? (cs : List Char) : Option (List Char) :=
  match digits? Char.isDigit cs with
  | some ('0' :: _ :: _) => none
  | ds => ds

/-- A sign, if there is one, and the rest. -/
def sign : List Char → Bool × List Char
  | '+' :: rest => (false, rest)
  | '-' :: rest => (true, rest)
  | cs => (false, cs)

/-- The least and the greatest integer. -/
def inRange (n : Int) : Bool := -Int.pow 2 63 ≤ n && n < Int.pow 2 63

/-- An integer with digits of a base other than ten. -/
def basedInteger? (base : Nat) (cs : List Char) : Option Value := do
  let ds ← digits? (fun c => (Decimal.hexValue? c).any (· < base)) cs
  let n : Int := ds.foldl (fun n c => n * base + (Decimal.hexValue? c).getD 0) 0
  if inRange n then some (.integer n) else none

/-- An integer. -/
def integer? (cs : List Char) : Option Value :=
  match cs with
  | '0' :: 'x' :: rest => basedInteger? 16 rest
  | '0' :: 'o' :: rest => basedInteger? 8 rest
  | '0' :: 'b' :: rest => basedInteger? 2 rest
  | cs => do
    let (negative, cs) := sign cs
    let ds ← decimalDigits? cs
    let n : Int := Decimal.value ds
    let n := if negative then -n else n
    if inRange n then some (.integer n) else none

/-- The number `± ds * 10 ^ e`, which may be too great for a finite one only if it is negative. -/
def scaled? (negative : Bool) (ds : List Char) (e : Int) : Option Value :=
  let m := Decimal.value ds
  let size : Int := (Decimal.digits m).length + e
  let x :=
    if m = 0 ∨ size < -400 then .zero negative
    else if 400 < size then .infinite negative
    else Binary64.ofLiteral negative m e
  if x.isFinite ∨ negative then some (.float x) else none

/-- A floating point number with a point, an exponent or both. -/
def decimal? (cs : List Char) : Option Value := do
  let (negative, cs) := sign cs
  let isMark (c : Char) : Bool := c == 'e' || c == 'E'
  let mantissa := cs.takeWhile (fun c => !isMark c)
  let e : Int ← match cs.drop mantissa.length with
    | [] => some 0
    | _ :: rest =>
      let (negative, rest) := sign rest
      (digits? Char.isDigit rest).map fun ds =>
        if negative then -(Decimal.value ds : Int) else Decimal.value ds
  let whole := mantissa.takeWhile (· != '.')
  let wholeDigits ← decimalDigits? whole
  let fraction ← match mantissa.drop whole.length with
    | [] => if mantissa.length = cs.length then none else some []
    | _ :: rest => digits? Char.isDigit rest
  scaled? negative (wholeDigits ++ fraction) (e - fraction.length)

/-- A floating point number. -/
def float? (cs : List Char) : Option Value :=
  let (negative, rest) := sign cs
  if rest = "inf".toList then some (.float (.infinite negative))
  else if rest = "nan".toList then some (.float .notANumber)
  else decimal? cs

/-! ## 4. Dates and times -/

/-- The value of so many digits and the rest behind them. -/
def fixed? (count : Nat) (cs : List Char) : Option (Nat × List Char) :=
  let ds := cs.take count
  if ds.length = count ∧ ds.all Char.isDigit then some (Decimal.value ds, cs.drop count) else none

/-- The rest behind a character. -/
def skip? (wanted : Char) : List Char → Option (List Char)
  | c :: rest => if c = wanted then some rest else none
  | [] => none

/-- The days of a month. -/
def daysOf (year month : Nat) : Nat :=
  if month = 2 then
    if year % 4 = 0 ∧ (year % 100 ≠ 0 ∨ year % 400 = 0) then 29 else 28
  else if month = 4 ∨ month = 6 ∨ month = 9 ∨ month = 11 then 30
  else 31

/-- The rest behind a date. -/
def date? (cs : List Char) : Option (List Char) := do
  let (year, cs) ← fixed? 4 cs
  let (month, cs) ← fixed? 2 (← skip? '-' cs)
  let (day, cs) ← fixed? 2 (← skip? '-' cs)
  if 1 ≤ month ∧ month ≤ 12 ∧ 1 ≤ day ∧ day ≤ daysOf year month then some cs else none

/-- The rest behind a time of day. -/
def time? (cs : List Char) : Option (List Char) := do
  let (hour, cs) ← fixed? 2 cs
  let (minute, cs) ← fixed? 2 (← skip? ':' cs)
  let (second, cs) ← fixed? 2 (← skip? ':' cs)
  if hour ≤ 23 ∧ minute ≤ 59 ∧ second ≤ 60 then
    match cs with
    | '.' :: rest => if rest.takeWhile Char.isDigit = [] then none else rest.dropWhile Char.isDigit
    | cs => some cs
  else none

/-- Whether the characters are a time zone, or nothing. -/
def isZone (cs : List Char) : Bool :=
  match cs with
  | [] => true
  | [c] => c == 'Z' || c == 'z'
  | c :: rest =>
    (c == '+' || c == '-') &&
      (match fixed? 2 rest with
        | some (hour, ':' :: rest) =>
          (match fixed? 2 rest with
            | some (minute, []) => hour ≤ 23 && minute ≤ 59
            | _ => false)
        | _ => false)

/-- Whether the characters are a time of day, with or without a zone. -/
def isZonedTime (cs : List Char) : Bool := (time? cs).any isZone

/-- Whether the characters are a date, a time of day or both. -/
def isMoment (cs : List Char) : Bool :=
  match date? cs with
  | some [] => true
  | some (c :: rest) => (c == 'T' || c == 't' || c == ' ') && isZonedTime rest
  | none => time? cs == some []

/-- The characters of words. -/
def isWordChar (c : Char) : Bool :=
  c.isAlphanum || c == '_' || c == '+' || c == '-' || c == '.' || c == ':'

/-- The word in front. A date goes on behind a blank if a digit stands there. -/
def takeWord (cs : List Char) : List Char × List Char :=
  let w := cs.takeWhile isWordChar
  let rest := cs.drop w.length
  match date? w, rest with
  | some [], ' ' :: c :: more =>
    if c.isDigit then
      let time := (c :: more).takeWhile isWordChar
      (w ++ ' ' :: time, (c :: more).drop time.length)
    else (w, rest)
  | _, _ => (w, rest)

/-- A value that is neither a text nor a container. -/
def word (cs : List Char) : Except Fault (Value × List Char) :=
  let (w, rest) := takeWord cs
  if w = "true".toList then .ok (.boolean true, rest)
  else if w = "false".toList then .ok (.boolean false, rest)
  else if isMoment w then .ok (.moment (String.ofList w), rest)
  else
    match float? w, integer? w with
    | some v, _ => .ok (v, rest)
    | none, some v => .ok (v, rest)
    | none, none => .error (.badWord (String.ofList w))

/-! ## 5. Names -/

/-- The characters of names without quotes. -/
def isNameChar (c : Char) : Bool := c.isAlphanum || c == '_' || c == '-'

/-- One part of a name. -/
def namePart : List Char → Except Fault (String × List Char)
  | '"' :: rest => basicText rest
  | '\'' :: rest => literalText rest
  | cs =>
    match cs.takeWhile isNameChar, cs.dropWhile isNameChar with
    | [], [] => .error .unexpectedEnd
    | [], c :: _ => .error (.unexpected c)
    | part, rest => .ok (String.ofList part, rest)

/-- A dotted name with the blanks around it: the parts before the last one, and the last one. The
first argument is the greatest number of parts. -/
def name : Nat → List Char → Except Fault ((List String × String) × List Char)
  | 0, _ => .error .tooDeep
  | parts + 1, cs => do
    let (part, rest) ← namePart (dropBlanks cs)
    match dropBlanks rest with
    | '.' :: rest =>
      let ((path, last), rest) ← name parts rest
      .ok ((part :: path, last), rest)
    | rest => .ok (([], part), rest)

/-- How many values may be nested in each other, and how many parts a name may have. -/
def maxDepth : Nat := 79

/-! ## 6. Values -/

mutual

/-- One value. The first argument bounds the steps, the second the values nested in it. -/
def value : Nat → Nat → List Char → Except Fault (Value × List Char)
  | 0, _, _ => .error .unexpectedEnd
  | fuel + 1, depth, cs =>
    match cs with
    | '"' :: '"' :: '"' :: rest => do
      let (s, rest) ← linesText '"' true rest
      .ok (.string s, rest)
    | '"' :: rest => do
      let (s, rest) ← basicText rest
      .ok (.string s, rest)
    | '\'' :: '\'' :: '\'' :: rest => do
      let (s, rest) ← linesText '\'' false rest
      .ok (.string s, rest)
    | '\'' :: rest => do
      let (s, rest) ← literalText rest
      .ok (.string s, rest)
    | '[' :: rest =>
      match depth with
      | 0 => .error .tooDeep
      | depth + 1 => do
        let (vs, rest) ← items fuel depth rest
        .ok (.array vs, rest)
    | '{' :: rest =>
      match depth with
      | 0 => .error .tooDeep
      | depth + 1 =>
        match dropBlanks rest with
        | '}' :: rest => .ok (.table .inline [], rest)
        | rest => do
          let (entries, rest) ← members fuel depth [] rest
          .ok (.table .inline entries, rest)
    | cs => word cs

/-- The items of an array and its closing bracket; a comma may stand behind the last one. -/
def items : Nat → Nat → List Char → Except Fault (List Value × List Char)
  | 0, _, _ => .error .unexpectedEnd
  | fuel + 1, depth, cs =>
    match dropLines cs.length.succ cs with
    | ']' :: rest => .ok ([], rest)
    | cs => do
      let (v, rest) ← value fuel depth cs
      match dropLines rest.length.succ rest with
      | ',' :: rest =>
        let (vs, rest) ← items fuel depth rest
        .ok (v :: vs, rest)
      | ']' :: rest => .ok ([v], rest)
      | [] => .error .unexpectedEnd
      | c :: _ => .error (.unexpected c)

/-- The named values of a table between braces and its closing brace, behind those read before. -/
def members : Nat → Nat → Entries → List Char → Except Fault (Entries × List Char)
  | 0, _, _, _ => .error .unexpectedEnd
  | fuel + 1, depth, done, cs => do
    let ((path, last), rest) ← name maxDepth cs
    let rest ← expect '=' rest
    let (v, rest) ← value fuel depth (dropBlanks rest)
    let done ← addValue path last v done
    match dropBlanks rest with
    | ',' :: rest => members fuel depth done rest
    | '}' :: rest => .ok (done, rest)
    | [] => .error .unexpectedEnd
    | c :: _ => .error (.unexpected c)

end

/-! ## 7. Lines -/

/-- The table that the lines of a file are written for, behind the lines read before; `heading` is
the last heading. The first argument bounds the number of lines. -/
def lines : Nat → List String → Entries → List Char → Except Fault Entries
  | 0, _, _, _ => .error .unexpectedEnd
  | fuel + 1, heading, root, cs =>
    match dropBlanks cs with
    | [] => .ok root
    | '[' :: '[' :: rest => do
      let ((path, last), rest) ← name maxDepth rest
      let rest ← lineEnd (← expect ']' (← expect ']' rest))
      lines fuel (path ++ [last]) (← addElement path last root) rest
    | '[' :: rest => do
      let ((path, last), rest) ← name maxDepth rest
      let rest ← lineEnd (← expect ']' rest)
      lines fuel (path ++ [last]) (← addHeading path last root) rest
    | c :: rest =>
      if c = '#' ∨ c = '\n' ∨ c = '\r' then do
        let rest ← lineEnd (c :: rest)
        lines fuel heading root rest
      else do
        let ((path, last), rest) ← name maxDepth (c :: rest)
        let rest ← expect '=' rest
        let (v, rest) ← value (2 * rest.length + 2) maxDepth (dropBlanks rest)
        let rest ← lineEnd rest
        lines fuel heading (← addValueUnder heading path last v root) rest

end Parser

/-- The table that a whole file is written for. A byte order mark in front is not part of it. -/
def parse (s : String) : Except Fault Entries :=
  let cs := match s.toList with
    | '\uFEFF' :: rest => rest
    | cs => cs
  Parser.lines (cs.length + 1) [] [] cs

end RealtimeChat.Toml
