import RealtimeChat.Number.Decimal
/-!
# Written numbers

How long the digits of a number are, what stands in front, and that they read back, with and
without zeros in front. A row of digits ends where a text goes on with something else.

* **`value_padded`**, `length_padded` -- digits filled with zeros up to a width;
* `head_digits_ne_zero` -- no zero stands in front of a number but the zero itself;
* `NoDigit`, `takeWhile_isDigit`, `dropWhile_isDigit` -- the digits in front of something else.
-/

namespace RealtimeChat.Decimal

/-! ## 1. Digits with zeros in front -/

theorem isDigit_of_mem_padded {width n : Nat} {c : Char} (h : c ∈ padded width n) :
    c.isDigit = true := by
  rcases List.mem_append.mp h with h | h
  · rw [List.eq_of_mem_replicate h]
    decide
  · exact isDigit_of_mem_digits h

theorem nul_not_mem_padded {width n : Nat} : '\x00' ∉ padded width n := fun h =>
  absurd (isDigit_of_mem_padded h) (by decide)

/-- **Zeros in front do not count.** -/
@[simp] theorem value_padded (width n : Nat) : value (padded width n) = n := by
  show Nat.ofDigitChars 10 (List.replicate _ '0' ++ digits n) 0 = n
  rw [Nat.ofDigitChars_append, Nat.ofDigitChars_replicate_zero, Nat.mul_zero]
  exact value_digits n

theorem length_padded {width n : Nat} (hwidth : 0 < width) (hn : n < Nat.pow 10 width) :
    (padded width n).length = width := by
  have hdigits : (digits n).length ≤ width :=
    (Nat.length_toDigits_le_iff (by decide) hwidth).mpr hn
  show (List.replicate (width - (digits n).length) '0' ++ digits n).length = width
  rw [List.length_append, List.length_replicate]
  omega

theorem padded_ne_nil (width n : Nat) : padded width n ≠ [] := fun h =>
  absurd (List.append_eq_nil_iff.mp h).2 Nat.toDigits_ne_nil

/-! ## 2. What stands in front -/

theorem digits_ne_nil (n : Nat) : digits n ≠ [] := Nat.toDigits_ne_nil

theorem head_digits_ne_zero {n : Nat} (hn : n ≠ 0) : (digits n).head? ≠ some '0' := by
  induction n using Nat.strongRecOn with
  | ind n ih =>
      by_cases hsmall : n < 10
      · rw [digits, Nat.toDigits_of_lt_base hsmall]
        have hone : ∀ n < 10, n ≠ 0 → [n.digitChar].head? ≠ some '0' := by decide
        exact hone n hsmall hn
      · have hhead := ih (n / 10) (by omega) (by omega)
        obtain ⟨c, cs, hcs⟩ := List.exists_cons_of_ne_nil (digits_ne_nil (n / 10))
        rw [digits, Nat.toDigits_of_base_le (by decide) (Nat.le_of_not_lt hsmall)]
        rw [hcs] at hhead
        rw [show Nat.toDigits 10 (n / 10) = c :: cs from hcs]
        exact hhead

theorem ne_of_isDigit {c d : Char} (hc : c.isDigit = true) (hd : d.isDigit = false) : c ≠ d := by
  rintro rfl
  rw [hc] at hd
  cases hd

/-! ## 3. Digits in front of something else -/

/-- A text does not begin with a digit. -/
def NoDigit (cs : List Char) : Prop := ∀ c ∈ cs.head?, c.isDigit = false

theorem noDigit_cons {c : Char} {cs : List Char} (h : c.isDigit = false) : NoDigit (c :: cs) := by
  intro c' hc
  cases hc
  exact h

theorem NoDigit.takeWhile {cs : List Char} (h : NoDigit cs) : cs.takeWhile Char.isDigit = [] := by
  cases cs with
  | nil => rfl
  | cons c cs => exact List.takeWhile_cons_of_neg (by rw [h c rfl]; decide)

theorem NoDigit.dropWhile {cs : List Char} (h : NoDigit cs) : cs.dropWhile Char.isDigit = cs := by
  cases cs with
  | nil => rfl
  | cons c cs => exact List.dropWhile_cons_of_neg (by rw [h c rfl]; decide)

theorem takeWhile_isDigit {ds rest : List Char} (hds : ∀ c ∈ ds, c.isDigit = true)
    (hrest : NoDigit rest) : (ds ++ rest).takeWhile Char.isDigit = ds := by
  rw [List.takeWhile_append_of_pos hds, hrest.takeWhile, List.append_nil]

theorem dropWhile_isDigit {ds rest : List Char} (hds : ∀ c ∈ ds, c.isDigit = true)
    (hrest : NoDigit rest) : (ds ++ rest).dropWhile Char.isDigit = rest := by
  rw [List.dropWhile_append_of_pos hds, hrest.dropWhile]

end RealtimeChat.Decimal
