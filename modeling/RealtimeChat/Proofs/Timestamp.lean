import Mathlib.Data.List.TakeWhile
import RealtimeChat.Proofs.Decimal
import RealtimeChat.Timestamp.Text
/-!
# Written timestamps read back, and the newest of some

Each part of a written timestamp has the digits that its reader takes, and no more: two for most of
them, four and a sign for the year, three, six or nine for the fraction. A leap second is written
with the number 60 and read as what it was.

* `field_padded`, `yearField_renderYear`, `fraction_renderFraction` -- the parts read back;
* `assemble?_fields` -- the timestamp is made of its own fields;
* **`read_text`** -- a written timestamp reads back, to the nanosecond and the leap second;
* `offsetText_injective` -- with a numeric offset they are told apart as well;
* `Newest` -- which time is the newest of some, and how it follows when one more comes.
-/

namespace RealtimeChat.Timestamp

open Decimal (padded NoDigit)
open Text (isBlank dropBlank)

variable {rest : List Char}

/-! ## 1. Numbers -/

theorem isBlank_of_isDigit {c : Char} (h : c.isDigit = true) : isBlank c = false := by
  simp only [Char.isDigit, Bool.and_eq_true, decide_eq_true_eq, UInt32.le_iff_toNat_le] at h
  have hn : 48 ≤ c.toNat ∧ c.toNat ≤ 57 := h
  have hne : ∀ m, m < 48 ∨ 57 < m → c.toNat ≠ m := by omega
  simp [isBlank, hne]
  omega

theorem dropBlank_of_ne {c : Char} {cs : List Char} (h : isBlank c = false) :
    dropBlank (c :: cs) = c :: cs := List.dropWhile_cons_of_neg (by rw [h]; decide)

theorem padded_head (width n : Nat) :
    ∃ c cs, padded width n = c :: cs ∧ c.isDigit = true := by
  obtain ⟨c, cs, hcs⟩ := List.exists_cons_of_ne_nil (Decimal.padded_ne_nil width n)
  exact ⟨c, cs, hcs, Decimal.isDigit_of_mem_padded (hcs ▸ List.mem_cons_self)⟩

theorem dropBlank_padded (width n : Nat) :
    dropBlank (padded width n ++ rest) = padded width n ++ rest := by
  obtain ⟨c, cs, hcs, hc⟩ := padded_head width n
  rw [hcs]
  exact dropBlank_of_ne (isBlank_of_isDigit hc)

/-- The number that the first digits of a text make, if there are such. -/
theorem number_of_takeWhile {width n : Nat} {cs ds : List Char} (hne : ds ≠ [])
    (hds : (cs.take width).takeWhile Char.isDigit = ds) (hvalue : Decimal.value ds = n) :
    number width cs = .ok (n, cs.drop ds.length) := by
  unfold number
  rw [hds]
  split
  · exact absurd rfl hne
  · rw [hvalue]

theorem number_padded {width n : Nat} (hwidth : 0 < width) (hn : n < Nat.pow 10 width) :
    number width (padded width n ++ rest) = .ok (n, rest) := by
  have hlength := Decimal.length_padded hwidth hn
  have htake : ((padded width n ++ rest).take width).takeWhile Char.isDigit = padded width n := by
    rw [List.take_left' hlength, List.takeWhile_eq_self_iff]
    exact fun _ => Decimal.isDigit_of_mem_padded
  rw [number_of_takeWhile (Decimal.padded_ne_nil width n) htake (Decimal.value_padded width n),
    List.drop_left]

theorem field_padded {width n : Nat} (hwidth : 0 < width) (hn : n < Nat.pow 10 width) :
    field width (padded width n ++ rest) = .ok (n, rest) := by
  rw [field, dropBlank_padded, number_padded hwidth hn]

/-- A number of any length ends with its digits. -/
theorem number_length (width n : Nat) (hrest : NoDigit rest) :
    number (padded width n ++ rest).length (padded width n ++ rest) = .ok (n, rest) := by
  have htake : ((padded width n ++ rest).take (padded width n ++ rest).length).takeWhile
      Char.isDigit = padded width n := by
    rw [List.take_length]
    exact Decimal.takeWhile_isDigit (fun _ => Decimal.isDigit_of_mem_padded) hrest
  rw [number_of_takeWhile (Decimal.padded_ne_nil width n) htake (Decimal.value_padded width n),
    List.drop_left]

/-! ## 2. Years and fractions -/

theorem yearField_minus (cs : List Char) :
    yearField ('-' :: cs) = (number cs.length cs).map (fun r => (-(r.1 : Int), r.2)) := by
  rw [yearField, dropBlank_of_ne (by decide)]
  rfl

theorem yearField_plus (cs : List Char) :
    yearField ('+' :: cs) = (number cs.length cs).map (fun r => ((r.1 : Int), r.2)) := by
  rw [yearField, dropBlank_of_ne (by decide)]
  rfl

theorem yearField_of_isDigit {c : Char} (hc : c.isDigit = true) (cs : List Char) :
    yearField (c :: cs) = (number 4 (c :: cs)).map (fun r => ((r.1 : Int), r.2)) := by
  rw [yearField, dropBlank_of_ne (isBlank_of_isDigit hc)]
  split
  · rename_i heq
    cases heq
    exact absurd hc (by decide)
  · rename_i heq
    cases heq
    exact absurd hc (by decide)
  · rfl

/-- **A year reads back**, with a sign or without. -/
theorem yearField_renderYear (year : Int) (hrest : NoDigit rest) :
    yearField (renderYear year ++ rest) = .ok (year, rest) := by
  have hlength := number_length 4 year.natAbs hrest
  unfold renderYear
  by_cases hyear : 0 ≤ year ∧ year ≤ 9999
  · have hsmall : year.toNat < 10000 := by omega
    have hnumber := @number_padded rest 4 year.toNat (by decide) hsmall
    have htoNat : (year.toNat : Int) = year := by omega
    obtain ⟨c, cs, hcs, hc⟩ := padded_head 4 year.toNat
    rw [if_pos hyear]
    rw [hcs, List.cons_append] at hnumber ⊢
    rw [yearField_of_isDigit hc, hnumber, Except.map, htoNat]
  · rw [if_neg hyear]
    by_cases hneg : year < 0
    · have hnatAbs : -(year.natAbs : Int) = year := by omega
      rw [if_pos hneg, List.cons_append, yearField_minus, hlength, Except.map, hnatAbs]
    · have hnatAbs : (year.natAbs : Int) = year := by omega
      rw [if_neg hneg, List.cons_append, yearField_plus, hlength, Except.map, hnatAbs]

theorem NoDigit.take {cs : List Char} (h : NoDigit cs) (n : Nat) : NoDigit (cs.take n) := by
  intro c hc
  rw [List.head?_take] at hc
  split at hc
  · cases hc
  · exact h c hc

theorem fraction_padded {width n : Nat} (hwidth : 0 < width) (hnine : width ≤ 9)
    (hn : n < Nat.pow 10 width) (hrest : NoDigit rest) :
    fraction ('.' :: (padded width n ++ rest)) = .ok (n * Nat.pow 10 (9 - width), rest) := by
  have hlength := Decimal.length_padded hwidth hn
  have hdigits : ∀ c ∈ padded width n, c.isDigit = true := fun _ => Decimal.isDigit_of_mem_padded
  have htake : ((padded width n ++ rest).take 9).takeWhile Char.isDigit = padded width n := by
    rw [List.take_append, hlength, List.take_of_length_le (by omega)]
    exact Decimal.takeWhile_isDigit hdigits (NoDigit.take hrest _)
  rw [fraction]
  simp only [htake, Decimal.dropWhile_isDigit hdigits hrest]
  split
  · exact absurd ‹_› (Decimal.padded_ne_nil width n)
  · rw [Decimal.value_padded, hlength]

/-- **A fraction reads back**, whatever number of digits is enough for it. -/
theorem fraction_renderFraction {nanos : Nat} (h : nanos < secondNanos) {c : Char}
    (hc : c.isDigit = false) (hpoint : c ≠ '.') :
    fraction (renderFraction nanos ++ c :: rest) = .ok (nanos, c :: rest) := by
  have hnanos : nanos < 1000000000 := h
  have hrest : NoDigit (c :: rest) := Decimal.noDigit_cons hc
  unfold renderFraction
  by_cases hzero : nanos = 0
  · rw [if_pos hzero, hzero]
    unfold fraction
    split
    · rename_i heq
      cases heq
      exact absurd rfl hpoint
    · rfl
  · rw [if_neg hzero]
    by_cases hmillis : nanos % 1000000 = 0
    · have hfew : nanos / 1000000 < 1000 := by omega
      have hexact : nanos / 1000000 * 1000000 = nanos := by omega
      rw [if_pos hmillis, List.cons_append, fraction_padded (by decide) (by decide) hfew hrest,
        show nanos / 1000000 * Nat.pow 10 (9 - 3) = nanos from hexact]
    · rw [if_neg hmillis]
      by_cases hmicros : nanos % 1000 = 0
      · have hfew : nanos / 1000 < 1000000 := by omega
        have hexact : nanos / 1000 * 1000 = nanos := by omega
        rw [if_pos hmicros, List.cons_append, fraction_padded (by decide) (by decide) hfew hrest,
          show nanos / 1000 * Nat.pow 10 (9 - 6) = nanos from hexact]
      · rw [if_neg hmicros, List.cons_append, fraction_padded (by decide) (by decide) hnanos hrest,
          show nanos * Nat.pow 10 (9 - 9) = nanos from Nat.mul_one nanos]

/-! ## 3. Timestamps -/

theorem ofFields?_self (t : Timestamp) :
    ofFields? t.year t.month t.day t.second t.nanos = some t := dif_pos t.valid

theorem shift?_zero (t : Timestamp) : t.shift? 0 = some t := by
  have hsecond : t.second < daySeconds := t.valid.2.2.2.1
  have hlow : ¬ (t.second : Int) - 0 < 0 := by omega
  have hhigh : ¬ (daySeconds : Int) ≤ (t.second : Int) - 0 := by omega
  unfold shift?
  dsimp only
  rw [if_neg hlow, if_neg hhigh, Int.sub_zero, Int.toNat_natCast, ofFields?_self]

/-- In UTC a timestamp is made of its own fields, a leap second of the number 60. -/
theorem assemble?_fields (t : Timestamp) {leap : Nat}
    (hleap : leap = if secondNanos ≤ t.nanos then 1 else 0) :
    assemble? t.year t.month t.day (t.second / 3600) (t.second / 60 % 60) (t.second % 60 + leap)
      (t.nanos - leap * secondNanos) 0 = some t := by
  obtain ⟨-, -, -, hsecond, -, hlast⟩ := t.valid
  have hsecond : t.second < 86400 := hsecond
  have hday : (0 : Int) < daySeconds := by decide
  have hnumber : t.second % 60 + leap ≤ 60 := by
    rw [hleap]
    split <;> omega
  unfold assemble?
  dsimp only
  rw [if_neg (by omega)]
  have hclock : t.second / 3600 * 3600 + t.second / 60 % 60 * 60 +
      (if t.second % 60 + leap = 60 then 59 else t.second % 60 + leap) = t.second := by
    rw [hleap]
    by_cases hnanos : secondNanos ≤ t.nanos
    · have hlast := hlast hnanos
      rw [if_pos hnanos, if_pos (by omega)]
      omega
    · rw [if_neg hnanos, if_neg (by omega)]
      omega
  have hnanos : t.nanos - leap * secondNanos +
      (if t.second % 60 + leap = 60 then secondNanos else 0) = t.nanos := by
    rw [hleap]
    by_cases hnanos : secondNanos ≤ t.nanos
    · have hlast := hlast hnanos
      rw [if_pos hnanos, if_pos (by omega)]
      omega
    · rw [if_neg hnanos, if_neg (by omega)]
      omega
  rw [hclock, hnanos, ofFields?_self, Option.bind_some, shift?_zero]

theorem separator_self {c : Char} (hc : isBlank c = false) :
    separator c (c :: rest) = .ok rest := by
  rw [separator, dropBlank_of_ne hc]
  exact if_pos rfl

theorem field_pair {n : Nat} (hn : n < 100) (cs : List Char) :
    field 2 (padded 2 n ++ cs) = .ok (n, cs) := field_padded (by decide) hn

theorem ok_bind {ε α β : Type} (a : α) (f : α → Except ε β) : (Except.ok a >>= f) = f a :=
  pure_bind a f

/-- **A written timestamp reads back**, to the nanosecond and the leap second. -/
theorem read_text (t : Timestamp) : read t.text = .ok t := by
  obtain ⟨-, ⟨-, hmonth⟩, ⟨-, hday⟩, hsecond, hnanos, -⟩ := t.valid
  have hsecond : t.second < 86400 := hsecond
  have hnanos : t.nanos < 2000000000 := hnanos
  have hmost : daysIn t.year t.month ≤ 31 := by
    unfold daysIn
    repeat' split
    all_goals omega
  generalize hleap : (if secondNanos ≤ t.nanos then 1 else 0) = leap
  have hbounds : leap ≤ 1 ∧ t.nanos - leap * secondNanos < secondNanos := by
    have hbillion : secondNanos = 1000000000 := rfl
    rw [← hleap]
    split <;> omega
  obtain ⟨hone, hrest⟩ := hbounds
  have hfields := assemble?_fields t hleap.symm
  have hyear : ∀ cs, yearField (renderYear t.year ++ '-' :: cs) = .ok (t.year, '-' :: cs) :=
    fun _ => yearField_renderYear t.year (Decimal.noDigit_cons (by decide))
  have hmonth := field_pair (n := t.month) (by omega)
  have hday := field_pair (n := t.day) (by omega)
  have hhour := field_pair (n := t.second / 3600) (by omega)
  have hminute := field_pair (n := t.second / 60 % 60) (by omega)
  have hnumber := field_pair (n := t.second % 60 + leap) (by omega)
  have hdash : ∀ cs, separator '-' ('-' :: cs) = .ok cs := fun _ => separator_self (by decide)
  have hcolon : ∀ cs, separator ':' (':' :: cs) = .ok cs := fun _ => separator_self (by decide)
  have htime : ∀ cs, dateEnd ('T' :: cs) = .ok cs := fun _ => rfl
  have hutc : offset (dropBlank ['Z']) = .ok (0, []) := rfl
  rw [read, text, String.toList_ofList, readChars, render]
  simp only [hleap]
  generalize t.nanos - leap * secondNanos = nanos at hrest hfields ⊢
  have hfraction : fraction (renderFraction nanos ++ ['Z']) = .ok (nanos, ['Z']) :=
    fraction_renderFraction hrest (by decide) (by decide)
  simp only [List.append_assoc, List.cons_append, hyear, ok_bind, hdash, hmonth, hday,
    htime, hhour, hcolon, hminute, hnumber, hfraction, hutc, hfields]
  rfl

/-! ## 4. Timestamps with a numeric offset -/

theorem render_eq_append (t : Timestamp) (utc : List Char) :
    t.render utc = t.render [] ++ utc := by
  simp [render]

/-- The form with UTC as a numeric offset tells timestamps apart, as the other one does. -/
theorem offsetText_injective {s t : Timestamp} (h : s.offsetText = t.offsetText) : s = t := by
  have hrender := String.ofList_injective h
  rw [render_eq_append s, render_eq_append t] at hrender
  have hbody := List.append_cancel_right hrender
  have htext : s.text = t.text := by
    rw [text, text, render_eq_append s, render_eq_append t, hbody]
  have hread := s.read_text
  rw [htext, t.read_text] at hread
  exact (Except.ok.inj hread).symm

theorem nul_not_mem_render (t : Timestamp) {utc : List Char} (h : '\x00' ∉ utc) :
    '\x00' ∉ t.render utc := by
  have hyear : '\x00' ∉ renderYear t.year := by
    unfold renderYear
    split
    · exact Decimal.nul_not_mem_padded
    · split <;> simp [Decimal.nul_not_mem_padded]
  have hfraction : ∀ nanos, '\x00' ∉ renderFraction nanos := by
    intro nanos
    unfold renderFraction
    repeat' split
    all_goals simp [Decimal.nul_not_mem_padded]
  simp [render, hyear, hfraction, Decimal.nul_not_mem_padded, h]

end RealtimeChat.Timestamp

namespace RealtimeChat

/-! ## 5. The newest of some times -/

/-- The newest of some times, or nothing if there is none. -/
structure Newest (times : List Timestamp) (since : Option Timestamp) : Prop where
  taken : ∀ t, since = some t → t ∈ times
  newest : ∀ t ∈ times, ∃ t', since = some t' ∧ t ≤ t'

theorem Newest.nil : Newest [] none := ⟨by simp, by simp⟩

theorem Timestamp.later_none (time : Option Timestamp) : later time none = time := by
  cases time <;> rfl

/-- The later of two times is one of them, and not before either. -/
theorem Timestamp.later_some (since : Option Timestamp) (t : Timestamp) :
    ∃ t', later since (some t) = some t' ∧ (t' = t ∨ since = some t') ∧ t ≤ t' ∧
      ∀ old, since = some old → old ≤ t' := by
  have refl : ∀ t : Timestamp, t ≤ t := fun t => Int.le_refl t.order
  cases since with
  | none => exact ⟨t, rfl, .inl rfl, refl t, fun _ hold => nomatch hold⟩
  | some old =>
      by_cases hle : old ≤ t
      · refine ⟨t, congrArg some (if_pos hle), .inl rfl, refl t, fun _ hold => ?_⟩
        cases hold
        exact hle
      · refine ⟨old, congrArg some (if_neg hle), .inr rfl, Int.le_of_lt (Int.not_le.mp hle),
          fun _ hold => ?_⟩
        cases hold
        exact refl old

theorem Newest.later {ts : List Timestamp} {since : Option Timestamp} (h : Newest ts since)
    (time : Option Timestamp) : Newest (time.toList ++ ts) (Timestamp.later since time) := by
  cases time with
  | none => rwa [Timestamp.later_none]
  | some t =>
      obtain ⟨t', hlater, htaken, hle, holder⟩ := Timestamp.later_some since t
      rw [hlater]
      refine ⟨fun x hx => ?_, fun x hx => ⟨t', rfl, ?_⟩⟩
      · cases hx
        rcases htaken with rfl | hsince
        · exact List.mem_cons_self
        · exact List.mem_cons_of_mem _ (h.taken t' hsince)
      · rcases List.mem_cons.mp hx with rfl | hx
        · exact hle
        · obtain ⟨old, hsince, hold⟩ := h.newest x hx
          exact Int.le_trans hold (holder old hsince)

end RealtimeChat
