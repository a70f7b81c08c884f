import RealtimeChat.Number.Decimal
/-!
# Binary floating point numbers with 53 significant bits

A finite number is `significand * 2 ^ exponent` with a sign. Each operation computes the exact
quotient of two naturals and rounds it once, to the nearest number and on a tie to the even
significand, so no operation depends on the machine's own arithmetic.

* `Binary64.ofRatio` -- the number nearest to a quotient;
* `add`, `sub`, `mul`, `div`, `compare?` -- arithmetic and order;
* `ofDecimal?` -- the number that a decimal literal of a document stands for, read by one
  multiplication or division of rounded operands;
* `ofLiteral` -- the number nearest to a decimal literal.
-/

namespace RealtimeChat

/-- A floating point number. -/
inductive Binary64 where
  /-- The number `significand * 2 ^ exponent`, below zero if `negative`. -/
  | finite (negative : Bool) (significand : Nat) (exponent : Int)
  /-- Beyond the largest finite number. -/
  | infinite (negative : Bool)
  /-- The result of an operation without one. -/
  | notANumber
deriving DecidableEq, Repr

namespace Binary64

/-! ## 1. Rounding -/

/-- The natural number nearest to `num / den`, the even one of two. -/
def nearest (num den : Nat) : Nat :=
  let q := num / den
  let r := num % den
  if 2 * r < den then q
  else if den < 2 * r then q + 1
  else q + q % 2

/-- The least exponent of a finite number. -/
def minExponent : Int := -1074

/-- The greatest exponent of a finite number. -/
def maxExponent : Int := 971

/-- `m * 2 ^ e` as a quotient of naturals. -/
def scaled (m : Nat) (e : Int) : Nat × Nat := (m * Nat.pow 2 e.toNat, Nat.pow 2 (-e).toNat)

/-- The exponent at which `num / den` has 53 bits before the point, or the least one. -/
def exponentOf (num den : Nat) : Int :=
  let k : Int := num.log2 - den.log2
  let (a, b) := scaled 1 k
  let binade := if den * a ≤ num * b then k else k - 1
  max (binade - 52) minExponent

/-- The number nearest to `num / den`, with a sign. -/
def ofRatio (negative : Bool) (num den : Nat) : Binary64 :=
  if num = 0 ∨ den = 0 then .finite negative 0 minExponent
  else
    let e := exponentOf num den
    let (a, b) := scaled 1 e
    let m := nearest (num * b) (den * a)
    let (m, e) := if m = Nat.pow 2 53 then (Nat.pow 2 52, e + 1) else (m, e)
    if maxExponent < e then .infinite negative else .finite negative m e

/-- The number nearest to `± m * 2 ^ e`. -/
def round (negative : Bool) (m : Nat) (e : Int) : Binary64 :=
  let (num, den) := scaled m e
  ofRatio negative num den

/-- The number nearest to a natural number. -/
def ofNat (n : Nat) : Binary64 := ofRatio false n 1

/-- Zero, with a sign. -/
def zero (negative : Bool) : Binary64 := .finite negative 0 minExponent

/-- The number one. -/
def one : Binary64 := ofNat 1

instance : Inhabited Binary64 := ⟨zero false⟩

/-! ## 2. Arithmetic -/

/-- Whether the sign is a minus. -/
def negative : Binary64 → Bool
  | .finite s _ _ => s
  | .infinite s => s
  | .notANumber => false

/-- Whether the number is neither infinite nor absent. -/
def isFinite : Binary64 → Bool
  | .finite .. => true
  | _ => false

/-- Whether the number is zero of either sign. -/
def isZero : Binary64 → Bool
  | .finite _ m _ => m == 0
  | _ => false

/-- The number with the other sign. -/
def neg : Binary64 → Binary64
  | .finite s m e => .finite (!s) m e
  | .infinite s => .infinite (!s)
  | .notANumber => .notANumber

/-- The product, rounded once. -/
def mul : Binary64 → Binary64 → Binary64
  | .notANumber, _ => .notANumber
  | _, .notANumber => .notANumber
  | .finite s m e, .finite s' m' e' => round (s != s') (m * m') (e + e')
  | x, y => if x.isZero || y.isZero then .notANumber else .infinite (x.negative != y.negative)

/-- The quotient, rounded once. -/
def div : Binary64 → Binary64 → Binary64
  | .notANumber, _ => .notANumber
  | _, .notANumber => .notANumber
  | .infinite _, .infinite _ => .notANumber
  | .infinite s, y => .infinite (s != y.negative)
  | x, .infinite s => zero (x.negative != s)
  | .finite s m e, .finite s' m' e' =>
    if m' = 0 then (if m = 0 then .notANumber else .infinite (s != s'))
    else
      let (a, b) := scaled m (e - e')
      ofRatio (s != s') a (b * m')

/-- The signed multiple of `2 ^ e` that a finite number is. -/
def multiple (s : Bool) (m : Nat) (e unit : Int) : Int :=
  let n : Int := m * Int.pow 2 (e - unit).toNat
  if s then -n else n

/-- The sum, rounded once; a sum of zero is positive unless both numbers are negative. -/
def add : Binary64 → Binary64 → Binary64
  | .notANumber, _ => .notANumber
  | _, .notANumber => .notANumber
  | .infinite s, .infinite s' => if s = s' then .infinite s else .notANumber
  | .infinite s, _ => .infinite s
  | _, .infinite s => .infinite s
  | .finite s m e, .finite s' m' e' =>
    let unit := min e e'
    let n := multiple s m e unit + multiple s' m' e' unit
    if n = 0 then zero (s && s') else round (n < 0) n.natAbs unit

/-- The difference, rounded once. -/
def sub (x y : Binary64) : Binary64 := x.add y.neg

/-- The order of two numbers, where there is one; the two zeros are equal. -/
def compare? : Binary64 → Binary64 → Option Ordering
  | .notANumber, _ => none
  | _, .notANumber => none
  | .infinite s, .infinite s' => some (compare (!s) (!s'))
  | .infinite s, _ => some (if s then .lt else .gt)
  | _, .infinite s => some (if s then .gt else .lt)
  | .finite s m e, .finite s' m' e' =>
    let unit := min e e'
    some (compare (multiple s m e unit) (multiple s' m' e' unit))

/-- Whether `x` is smaller than `y`. -/
def lt (x y : Binary64) : Bool := x.compare? y == some .lt

/-- Whether `x` is smaller than `y` or equal to it. -/
def le (x y : Binary64) : Bool := x.lt y || x.compare? y == some .eq

/-- The greatest number below a positive one. -/
def pred : Binary64 → Binary64
  | .finite false m e =>
    if m = Nat.pow 2 52 ∧ minExponent < e then .finite false (Nat.pow 2 53 - 1) (e - 1)
    else .finite false (m - 1) e
  | x => x

/-! ## 3. Decimal literals -/

/-- The number nearest to `± m * 10 ^ e`. -/
def ofLiteral (negative : Bool) (m : Nat) (e : Int) : Binary64 :=
  if 0 ≤ e then ofRatio negative (m * Nat.pow 10 e.toNat) 1
  else ofRatio negative m (Nat.pow 10 (-e).toNat)

/-- The number nearest to a power of ten. -/
def powTen (e : Nat) : Binary64 := ofNat (Nat.pow 10 e)

/-- The greatest power of ten that is finite. -/
def maxPow : Nat := 308

/-- Divide by `10 ^ e`, in steps of the greatest finite power while `e` is above it. -/
def divPow (x : Binary64) (e : Nat) : Binary64 :=
  if _h : maxPow < e then
    if x.isZero then x else divPow (x.div (powTen maxPow)) (e - maxPow)
  else x.div (powTen e)
termination_by e
decreasing_by
  have : 0 < maxPow := by decide
  omega

/--
The number that `± m * 10 ^ e` stands for in a document: `m` and the power of ten are rounded
first, then their product or quotient. Absent where it would be infinite.
-/
def ofDecimal? (negative : Bool) (m : Nat) (e : Int) : Option Binary64 :=
  let x := ofRatio negative m 1
  if 0 ≤ e then
    if maxPow < e then (if x.isZero then some x else none)
    else
      let y := x.mul (powTen e.toNat)
      if y.isFinite then some y else none
  else some (x.divPow (-e).toNat)

end Binary64

end RealtimeChat
