/-!
# Points in time on the calendar

A timestamp is a day of the proleptic Gregorian calendar, a second of that day and nanoseconds,
all in UTC. A leap second is the last second of its minute with a thousand million nanoseconds
and more.

* `Timestamp` -- the fields with their bounds;
* `Timestamp.shift?` -- the point in UTC of a local time with an offset;
* `Timestamp.order` -- the key by which timestamps are compared.
-/

namespace RealtimeChat

namespace Timestamp

/-- Whether a year has a 29th of February. -/
def isLeapYear (year : Int) : Bool := year % 4 == 0 && (year % 100 != 0 || year % 400 == 0)

/-- The number of days of a month. -/
def daysIn (year : Int) (month : Nat) : Nat :=
  if month = 2 then (if isLeapYear year then 29 else 28)
  else if month = 4 ∨ month = 6 ∨ month = 9 ∨ month = 11 then 30
  else 31

/-- The first year that can be held. -/
def minYear : Int := -262143

/-- The last year that can be held. -/
def maxYear : Int := 262142

/-- The seconds of a day. -/
def daySeconds : Nat := 86400

/-- The nanoseconds of a second. -/
def secondNanos : Nat := 1000000000

/-- The bounds of the fields. -/
def Valid (year : Int) (month day second nanos : Nat) : Prop :=
  (minYear ≤ year ∧ year ≤ maxYear) ∧ (1 ≤ month ∧ month ≤ 12) ∧
    (1 ≤ day ∧ day ≤ daysIn year month) ∧ second < daySeconds ∧ nanos < 2 * secondNanos ∧
    (secondNanos ≤ nanos → second % 60 = 59)

instance (year : Int) (month day second nanos : Nat) :
    Decidable (Valid year month day second nanos) := by
  unfold Valid; infer_instance

end Timestamp

/-- A point in time, in UTC. -/
structure Timestamp where
  year : Int
  month : Nat
  day : Nat
  /-- The second of the day. -/
  second : Nat
  /-- The nanoseconds of the second; from a thousand million up it is a leap second. -/
  nanos : Nat
  valid : Timestamp.Valid year month day second nanos
deriving DecidableEq

namespace Timestamp

/-- The timestamp with these fields, if they are in bounds. -/
def ofFields? (year : Int) (month day second nanos : Nat) : Option Timestamp :=
  if h : Valid year month day second nanos then some ⟨year, month, day, second, nanos, h⟩ else none

/-- The day after. -/
def nextDay (year : Int) (month day : Nat) : Int × Nat × Nat :=
  if day < daysIn year month then (year, month, day + 1)
  else if month < 12 then (year, month + 1, 1)
  else (year + 1, 1, 1)

/-- The day before. -/
def previousDay (year : Int) (month day : Nat) : Int × Nat × Nat :=
  if 1 < day then (year, month, day - 1)
  else if 1 < month then (year, month - 1, daysIn year (month - 1))
  else (year - 1, 12, 31)

/-- The point in UTC of a local time whose clock is `offset` seconds ahead, less than a day. -/
def shift? (t : Timestamp) (offset : Int) : Option Timestamp :=
  let s : Int := t.second - offset
  if s < 0 then
    let (y, m, d) := previousDay t.year t.month t.day
    ofFields? y m d (s + daySeconds).toNat t.nanos
  else if daySeconds ≤ s then
    let (y, m, d) := nextDay t.year t.month t.day
    ofFields? y m d (s - daySeconds).toNat t.nanos
  else ofFields? t.year t.month t.day s.toNat t.nanos

/-- The key by which timestamps are compared. -/
def order (t : Timestamp) : Int :=
  (((t.year * 16 + t.month) * 32 + t.day) * daySeconds + t.second) * (2 * secondNanos) + t.nanos

instance : LE Timestamp := ⟨fun a b => a.order ≤ b.order⟩

instance (a b : Timestamp) : Decidable (a ≤ b) := inferInstanceAs (Decidable (a.order ≤ b.order))

instance : LT Timestamp := ⟨fun a b => a.order < b.order⟩

instance (a b : Timestamp) : Decidable (a < b) := inferInstanceAs (Decidable (a.order < b.order))

/-- The later of two timestamps, where an absent one is earlier than any other. -/
def later : Option Timestamp → Option Timestamp → Option Timestamp
  | none, b => b
  | a, none => a
  | some a, some b => some (if a ≤ b then b else a)

end Timestamp

end RealtimeChat
