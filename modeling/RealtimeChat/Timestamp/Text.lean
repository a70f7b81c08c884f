import RealtimeChat.Number.Decimal
import RealtimeChat.Text.Blank
import RealtimeChat.Timestamp
/-!
# The written form of timestamps

A timestamp is written as `2026-01-01T00:00:00Z`, with three, six or nine digits of a fraction
if it has one, and read more freely: blanks in front of the parts, `t` or a blank between date
and time, a fraction of any length, `UTC`, `z` or an offset of hours and minutes.

* `Timestamp.render` -- the written form, with the given sign of UTC;
* `Timestamp.read` -- the timestamp that a text is written for, or why there is none.
-/

namespace RealtimeChat.Timestamp

open RealtimeChat.Text

/-! ## 1. Writing -/

/-- Four digits for the years 0 to 9999, otherwise a sign and at least four digits. -/
def renderYear (year : Int) : List Char :=
  if 0 ≤ year ∧ year ≤ 9999 then Decimal.padded 4 year.toNat
  else (if year < 0 then '-' else '+') :: Decimal.padded 4 year.natAbs

/-- A fraction of a second with three, six or nine digits, the fewest that are exact. -/
def renderFraction (nanos : Nat) : List Char :=
  if nanos = 0 then []
  else if nanos % 1000000 = 0 then '.' :: Decimal.padded 3 (nanos / 1000000)
  else if nanos % 1000 = 0 then '.' :: Decimal.padded 6 (nanos / 1000)
  else '.' :: Decimal.padded 9 nanos

/-- The written form with `utc` as the sign of UTC; a leap second has the number 60. -/
def render (t : Timestamp) (utc : List Char) : List Char :=
  let leap := if secondNanos ≤ t.nanos then 1 else 0
  renderYear t.year ++ '-' :: Decimal.padded 2 t.month ++ '-' :: Decimal.padded 2 t.day ++
    'T' :: Decimal.padded 2 (t.second / 3600) ++ ':' :: Decimal.padded 2 (t.second / 60 % 60) ++
    ':' :: Decimal.padded 2 (t.second % 60 + leap) ++
    renderFraction (t.nanos - leap * secondNanos) ++ utc

/-- The form of stored and sent timestamps. -/
def text (t : Timestamp) : String := String.ofList (t.render ['Z'])

/-- The form with UTC as a numeric offset. -/
def offsetText (t : Timestamp) : String := String.ofList (t.render ['+', '0', '0', ':', '0', '0'])

/-! ## 2. Reading -/

/-- Why a text is no timestamp. -/
inductive Fault where
  | tooShort
  | invalid
  | outOfRange
  | trailing
deriving DecidableEq, Repr

/-- The fault in words. -/
def Fault.message : Fault → String
  | .tooShort => "premature end of input"
  | .invalid => "input contains invalid characters"
  | .outOfRange => "input is out of range"
  | .trailing => "trailing input"

/-- What a reader found and what is left of the text. -/
abbrev Result (α : Type) := Except Fault (α × List Char)

/-- A number of one to `width` digits. -/
def number (width : Nat) (cs : List Char) : Result Nat :=
  match (cs.take width).takeWhile Char.isDigit with
  | [] => .error (if cs.isEmpty then .tooShort else .invalid)
  | ds => .ok (Decimal.value ds, cs.drop ds.length)

/-- A number behind blanks. -/
def field (width : Nat) (cs : List Char) : Result Nat := number width (dropBlank cs)

/-- A year behind blanks: of any length with a sign, of up to four digits without. -/
def yearField (cs : List Char) : Result Int :=
  match dropBlank cs with
  | '-' :: rest => (number rest.length rest).map (fun r => (-(r.1 : Int), r.2))
  | '+' :: rest => (number rest.length rest).map (fun r => ((r.1 : Int), r.2))
  | cs => (number 4 cs).map (fun r => ((r.1 : Int), r.2))

/-- The separator `c` behind blanks. -/
def separator (c : Char) (cs : List Char) : Except Fault (List Char) :=
  match dropBlank cs with
  | [] => .error .tooShort
  | c' :: rest => if c' = c then .ok rest else .error .invalid

/-- What parts the time from the date. -/
def dateEnd : List Char → Except Fault (List Char)
  | [] => .error .tooShort
  | c :: rest => if c = 'T' ∨ c = 't' ∨ c = ' ' then .ok rest else .error .invalid

/-- The nanoseconds of a fraction, of which nine digits count. -/
def fraction : List Char → Result Nat
  | '.' :: cs =>
    match (cs.take 9).takeWhile Char.isDigit with
    | [] => .error (if cs.isEmpty then .tooShort else .invalid)
    | ds => .ok (Decimal.value ds * Nat.pow 10 (9 - ds.length), cs.dropWhile Char.isDigit)
  | cs => .ok (0, cs)

/-- Two digits, and which ones. -/
def twoDigits : List Char → Result (Char × Char)
  | a :: b :: rest => if a.isDigit ∧ b.isDigit then .ok ((a, b), rest) else .error .invalid
  | _ => .error .tooShort

/-- The seconds of an offset behind its sign: hours and minutes, with colons or blanks between. -/
def offsetBody (negative : Bool) (cs : List Char) : Except Fault (Int × List Char) := do
  let (hours, cs) ← twoDigits cs
  let (minutes, cs) ← twoDigits (cs.dropWhile (fun c => c = ':' ∨ isBlank c))
  if '5' < minutes.1 then .error .outOfRange
  else
    let n : Int := Decimal.value [hours.1, hours.2] * 3600 +
      Decimal.value [minutes.1, minutes.2] * 60
    .ok (if negative then -n else n, cs)

/-- The offset from UTC in seconds, under one of its names or with a sign. -/
def offset (cs : List Char) : Result Int :=
  match cs with
  | [] => .error .tooShort
  | 'Z' :: rest => .ok (0, rest)
  | 'z' :: rest => .ok (0, rest)
  | '+' :: rest => offsetBody false rest
  | '-' :: rest => offsetBody true rest
  | '\u2212' :: rest => offsetBody true rest
  | a :: b :: c :: rest =>
    if [a, b, c].map Char.toUpper = ['U', 'T', 'C'] then .ok (0, rest) else .error .invalid
  | _ => .error .invalid

/-- The timestamp with these fields in a zone `offset` seconds ahead of UTC; second 60 is a leap
second. -/
def assemble? (year : Int) (month day hour minute second nanos : Nat) (offset : Int) :
    Option Timestamp :=
  if 24 ≤ hour ∨ 60 ≤ minute ∨ 60 < second ∨ offset ≤ -(daySeconds : Int) ∨ daySeconds ≤ offset then
    none
  else
    let leap := second = 60
    let s := hour * 3600 + minute * 60 + (if leap then 59 else second)
    let n := nanos + (if leap then secondNanos else 0)
    (ofFields? year month day s n).bind (·.shift? offset)

/-- The timestamp that a row of characters is written for. -/
def readChars (cs : List Char) : Except Fault Timestamp := do
  let (year, cs) ← yearField cs
  let (month, cs) ← separator '-' cs >>= field 2
  let (day, cs) ← separator '-' cs >>= field 2
  let (hour, cs) ← dateEnd cs >>= field 2
  let (minute, cs) ← separator ':' cs >>= field 2
  let (second, cs) ← separator ':' cs >>= field 2
  let (nanos, cs) ← fraction cs
  let (offset, cs) ← offset (dropBlank cs)
  if !(dropBlank cs).isEmpty then .error .trailing
  else match assemble? year month day hour minute second nanos offset with
    | some t => .ok t
    | none => .error .outOfRange

/-- The timestamp that a text is written for. -/
def read (s : String) : Except Fault Timestamp := readChars s.toList

end RealtimeChat.Timestamp
