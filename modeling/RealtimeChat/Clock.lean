import RealtimeChat.Number.Binary64
/-!
# Instants and durations

Time is counted in nanoseconds. An instant is the time since the clock started, a duration the
time between two instants; nothing here reads a clock.

* `Instant`, `Duration` -- the quantities;
* `Duration.longest` -- the longest duration, at which multiples stop;
* `Duration.text` -- a duration in the unit that suits it.
-/

namespace RealtimeChat

/-- A point in time, in nanoseconds since the clock started. -/
abbrev Instant := Nat

/-- A length of time in nanoseconds. -/
abbrev Duration := Nat

namespace Duration

/-- The nanoseconds of a second. -/
def perSecond : Nat := 1000000000

/-- The nanoseconds of a millisecond. -/
def perMilli : Nat := 1000000

/-- A number of milliseconds. -/
def ofMillis (n : Nat) : Duration := n * perMilli

/-- A number of seconds. -/
def ofSeconds (n : Nat) : Duration := n * perSecond

/-- Whole seconds and the nanoseconds beyond them. -/
def ofParts (seconds nanos : Nat) : Duration := seconds * perSecond + nanos

/-- The whole seconds. -/
def seconds (d : Duration) : Nat := d / perSecond

/-- The nanoseconds beyond the whole seconds. -/
def nanos (d : Duration) : Nat := d % perSecond

/-- The whole milliseconds. -/
def millis (d : Duration) : Nat := d / perMilli

/-- The longest duration: as many seconds as 64 bits count, and almost one more. -/
def longest : Duration := (Nat.pow 2 64 - 1) * perSecond + 999999999

/-- A multiple of a duration, at most the longest one. -/
def times (d : Duration) (n : Nat) : Duration := min (d * n) longest

/-- The seconds as a floating point number: whole seconds and the fraction rounded by themselves. -/
def toSeconds (d : Duration) : Binary64 :=
  (Binary64.ofNat d.seconds).add ((Binary64.ofNat d.nanos).div (Binary64.ofNat perSecond))

/-- The duration nearest to a number of seconds. -/
def ofBinarySeconds : Binary64 → Duration
  | .finite false m e =>
    let (num, den) := Binary64.scaled m e
    Binary64.nearest (num * perSecond) den
  | _ => 0

/-- A whole part and a fraction of so many digits, without the zeros at its end. -/
def decimalText (whole fraction digits : Nat) : String :=
  let ds := ((Decimal.padded digits fraction).reverse.dropWhile (· == '0')).reverse
  String.ofList (Decimal.digits whole ++ if ds.isEmpty then [] else '.' :: ds)

/-- A duration in seconds, milliseconds, microseconds or nanoseconds, whichever is the largest
unit that it reaches. -/
def text (d : Duration) : String :=
  if perSecond ≤ d then decimalText (d / perSecond) (d % perSecond) 9 ++ "s"
  else if perMilli ≤ d then decimalText (d / perMilli) (d % perMilli) 6 ++ "ms"
  else if 1000 ≤ d then decimalText (d / 1000) (d % 1000) 3 ++ "µs"
  else decimalText d 0 0 ++ "ns"

end Duration

end RealtimeChat
