import RealtimeChat.Number.Binary64
/-!
# The shortest decimal text of a floating point number

The text with the fewest significant digits that reads back to the number; of two such the
nearer one, on a tie the one with the even last digit.

* `Shortest.select` -- the digits and the power of ten;
* `Shortest.positional` -- the layout without an exponent (`0.0000001`, `1.0`);
* `Shortest.compact` -- the layout with an exponent from `1e+16` up and below `0.00001`.
-/

namespace RealtimeChat.Shortest

open Binary64

/-! ## 1. The digits -/

/-- The interval of reals that round to `m * 2 ^ e`, in units of `2 ^ (e - 2)`. -/
structure Interval where
  /-- The lower end. -/
  lower : Nat
  /-- The number itself. -/
  middle : Nat
  /-- The upper end. -/
  upper : Nat
  /-- Whether the ends belong to the interval. -/
  closed : Bool
deriving Repr

/-- Halfway to each neighbour; the neighbour below a power of two is nearer. -/
def interval (m : Nat) (e : Int) : Interval :=
  let narrow := m = Nat.pow 2 52 ∧ minExponent < e
  ⟨4 * m - (if narrow then 1 else 2), 4 * m, 4 * m + 2, m % 2 == 0⟩

/-- Whether the fraction `num / den` of the unit lies in the interval. -/
def Interval.contains (i : Interval) (num den : Nat) : Bool :=
  if i.closed then i.lower * den ≤ num && num ≤ i.upper * den
  else i.lower * den < num && num < i.upper * den

/-- The least `k` with `num / den < 10 ^ k`. -/
def scale (num den : Nat) : Int :=
  if den ≤ num then (Decimal.digits (num / den)).length
  else 1 - ((Decimal.digits ((den - 1) / num)).length : Int)

/-- Remove the zeros at the end of the digits `d * 10 ^ p`; at most `fuel` of them. -/
def strip : Nat → Nat → Int → Nat × Int
  | 0, d, p => (d, p)
  | fuel + 1, d, p => if d % 10 = 0 ∧ d ≠ 0 then strip fuel (d / 10) (p + 1) else (d, p)

/--
The decimal `d * 10 ^ p` with the fewest digits in the interval, tried with `n` digits and more.
The unit of the interval is `a / b`, and `k` is the scale of the number.
-/
def search (i : Interval) (a b : Nat) (k : Int) : Nat → Nat → Option (Nat × Int)
  | 0, _ => none
  | fuel + 1, n =>
    let p : Int := k - n
    -- a grid point `d * 10 ^ p` is `d * u / v` units
    let u := Nat.pow 10 p.toNat * b
    let v := Nat.pow 10 (-p).toNat * a
    let d := i.middle * v / u
    let low := i.contains (d * u) v
    let high := i.contains ((d + 1) * u) v
    let twice := 2 * i.middle * v
    let sum := (2 * d + 1) * u
    if low && high then
      some (if twice < sum || (twice == sum && d % 2 == 0) then (d, p) else (d + 1, p))
    else if low then some (d, p)
    else if high then some (d + 1, p)
    else search i a b k fuel (n + 1)

/-- The digits and the power of ten of the shortest decimal of `m * 2 ^ e`. -/
def select (m : Nat) (e : Int) : Nat × Int :=
  if m = 0 then (0, 0)
  else
    let (a, b) := scaled 1 (e - 2)
    let k := scale (4 * m * a) b
    let (d, p) := (search (interval m e) a b k 17 1).getD (4 * m * a, 0)
    strip 20 d p

/-! ## 2. The layouts -/

/-- The digits `ds` with the point after the first `k` of them, and one digit behind it. -/
def withPoint (ds : List Char) (k : Int) : List Char :=
  if k ≤ 0 then ['0', '.'] ++ List.replicate (-k).toNat '0' ++ ds
  else if ds.length ≤ k.toNat then
    ds ++ List.replicate (k.toNat - ds.length) '0' ++ ['.', '0']
  else ds.take k.toNat ++ '.' :: ds.drop k.toNat

/-- A minus sign in front of the digits, if the number has one. -/
def withSign (negative : Bool) (cs : List Char) : List Char := if negative then '-' :: cs else cs

/-- The text without an exponent, with a point; the words for infinite and absent numbers. -/
def positional : Binary64 → String
  | .finite s m e =>
    let (d, p) := select m e
    let ds := Decimal.digits d
    String.ofList (withSign s (if m = 0 then ['0', '.', '0'] else withPoint ds (ds.length + p)))
  | .infinite s => if s then "-inf" else "inf"
  | .notANumber => "NaN"

/-- The text with a point if the number is below `10 ^ 16` and not below `10 ^ -5`, else with an
exponent. -/
def compact : Binary64 → String
  | .finite s m e =>
    let (d, p) := select m e
    let ds := Decimal.digits d
    let k : Int := ds.length + p
    let body :=
      if m = 0 then ['0', '.', '0']
      else if -5 < k ∧ k ≤ 16 then withPoint ds k
      else
        let mantissa := match ds with
          | c :: c' :: rest => c :: '.' :: c' :: rest
          | cs => cs
        let sign := if 1 ≤ k then ['+'] else []
        mantissa ++ 'e' :: sign ++ Decimal.signed (k - 1)
    String.ofList (withSign s body)
  | .infinite s => if s then "-inf" else "inf"
  | .notANumber => "NaN"

end RealtimeChat.Shortest
