/-!
# Decimal digits

Natural numbers written with decimal digits and read back.

* `digits`, `padded` -- the digits of a number, with zeros in front up to a width;
* `value` -- the number that a row of digits stands for;
* **`value_digits`** -- a written number reads back.
-/

namespace RealtimeChat.Decimal

/-- The decimal digits of a number, most significant first; `0` has one digit. -/
def digits (n : Nat) : List Char := Nat.toDigits 10 n

/-- The digits of a number, filled with zeros in front up to `width`. -/
def padded (width n : Nat) : List Char :=
  let ds := digits n
  List.replicate (width - ds.length) '0' ++ ds

/-- The number that a row of decimal digits stands for. -/
def value (cs : List Char) : Nat := Nat.ofDigitChars 10 cs 0

/-- The value of a digit. -/
def digitValue (c : Char) : Nat := c.toNat - '0'.toNat

@[simp] theorem value_digits (n : Nat) : value (digits n) = n :=
  Nat.ofDigitChars_toDigits (by decide) (by decide)

theorem isDigit_of_mem_digits {n : Nat} {c : Char} (h : c ∈ digits n) : c.isDigit = true :=
  Nat.isDigit_of_mem_toDigits (by decide) (by decide) h

/-- The digits of an integer, with a minus sign if it is negative. -/
def signed (n : Int) : List Char :=
  if n < 0 then '-' :: digits n.natAbs else digits n.natAbs

/-- The value of a hexadecimal digit of either case. -/
def hexValue? (c : Char) : Option Nat :=
  if c.isDigit then some (c.toNat - '0'.toNat)
  else if 'a' ≤ c ∧ c ≤ 'f' then some (c.toNat - 'a'.toNat + 10)
  else if 'A' ≤ c ∧ c ≤ 'F' then some (c.toNat - 'A'.toNat + 10)
  else none

/-- The lower-case hexadecimal digits of a number, filled with zeros up to `width`. -/
def hexPadded (width n : Nat) : List Char :=
  let ds := Nat.toDigits 16 n
  List.replicate (width - ds.length) '0' ++ ds

end RealtimeChat.Decimal
