import RealtimeChat.Json.Parser
import RealtimeChat.Json.Printer
import RealtimeChat.Proofs.Decimal
/-!
# Written values read back

The printer writes a value as the parser reads it: each escape names its character, the digits of
a number end where the next sign stands, and the bound on the steps is never met since every step
takes a character away.

* `Exact` -- values without floating point numbers, and not nested too deeply;
* `textBody_flatMap`, `number_signed` -- texts and integers read back, whatever follows;
* **`value_render`** -- so does every exact value;
* **`parseListed_text`**, **`parse_text`** -- a written value reads back as a whole text;
* `nul_not_mem_render` -- there is no NUL in it, since control characters are escaped.
-/

namespace RealtimeChat.Json

open Decimal (digits NoDigit)

/-- Values whose integers have at most 64 bits, without floating point numbers, with at most
`depth` values in each other. -/
inductive Exact : Nat → Json → Prop where
  | null {depth : Nat} : Exact depth .null
  | bool {depth : Nat} (b : Bool) : Exact depth (.bool b)
  | integer {depth : Nat} {n : Int} (hmin : -(Nat.pow 2 63 : Int) ≤ n)
      (hmax : n ≤ Parser.maxSignificand) : Exact depth (.number (.integer n))
  | string {depth : Nat} (s : String) : Exact depth (.string s)
  | array {depth : Nat} {items : List Json} (h : ∀ v ∈ items, Exact depth v) :
      Exact (depth + 1) (.array items)
  | object {depth : Nat} {members : List (String × Json)} (h : ∀ m ∈ members, Exact depth m.2) :
      Exact (depth + 1) (.object members)

namespace Parser

variable {fuel : Nat} {rest : List Char}

/-! ## 1. Texts -/

theorem hex4_append {cs : List Char} {n : Nat} (h : hex4 cs = .ok (n, [])) :
    hex4 (cs ++ rest) = .ok (n, rest) := by
  match cs with
  | [] | [_] | [_, _] | [_, _, _] => cases h
  | a :: b :: c :: d :: more =>
      simp only [hex4, List.cons_append] at h ⊢
      split at h
      · injection h with h
        injection h with hn hmore
        rw [hn, hmore]
        rfl
      · cases h

/-- The four digits of a control character name it. -/
theorem hex4_hexPadded {n : Nat} (hn : n < 32) : hex4 (Decimal.hexPadded 4 n) = .ok (n, []) := by
  have hall : ∀ n < 32, (hex4 (Decimal.hexPadded 4 n)).toOption = some (n, []) := by decide +kernel
  have hn := hall n hn
  cases h : hex4 (Decimal.hexPadded 4 n) with
  | ok r =>
      rw [h] at hn
      rw [Option.some.inj hn]
  | error f =>
      rw [h] at hn
      cases hn

theorem unicodeEscape_hexPadded {c : Char} (hc : c.toNat < 32) :
    unicodeEscape (Decimal.hexPadded 4 c.toNat ++ rest) = .ok (c, rest) := by
  unfold unicodeEscape
  rw [hex4_append (hex4_hexPadded hc)]
  dsimp only
  rw [if_neg (by omega), if_neg (by omega), Char.ofNat_toNat]

theorem textBody_plain {c : Char} (hquote : c ≠ '"') (hbackslash : c ≠ '\\')
    (hprintable : ¬ c.toNat < 0x20) (done : List Char) :
    textBody (fuel + 1) done (c :: rest) = textBody fuel (c :: done) rest := by
  rw [textBody.eq_def]
  dsimp only
  split
  · rename_i hcs
    cases hcs
  · rename_i hcs
    cases hcs
    exact absurd rfl hquote
  · rename_i hcs
    cases hcs
    exact absurd rfl hbackslash
  · rename_i hcs
    cases hcs
    rw [if_neg hprintable]

/-- **Each character of a text reads back**, escaped or not. -/
theorem textBody_escape (done : List Char) (c : Char) :
    textBody (fuel + 1) done (escape c ++ rest) = textBody fuel (c :: done) rest := by
  unfold escape
  split
  · rfl
  · rfl
  · rfl
  · rfl
  · rfl
  · rfl
  · rfl
  · rename_i hquote hbackslash _ _ _ _ _
    split
    · rename_i hcontrol
      have hescaped : escaped ('u' :: (Decimal.hexPadded 4 c.toNat ++ rest)) = .ok (c, rest) :=
        unicodeEscape_hexPadded hcontrol
      show textBody (fuel + 1) done ('\\' :: 'u' :: (Decimal.hexPadded 4 c.toNat ++ rest)) = _
      rw [textBody.eq_def]
      simp only [hescaped]
    · rename_i hprintable
      exact textBody_plain hquote hbackslash hprintable done

theorem escape_length (c : Char) : 0 < (escape c).length := by
  unfold escape
  repeat' split
  all_goals exact Nat.succ_pos _

theorem length_le_flatMap (cs : List Char) : cs.length ≤ (cs.flatMap escape).length := by
  induction cs with
  | nil => exact Nat.le_refl _
  | cons c cs ih =>
      have hc := escape_length c
      rw [List.flatMap_cons, List.length_append, List.length_cons]
      omega

theorem textBody_flatMap {cs : List Char} (hfuel : cs.length < fuel) (done : List Char) :
    textBody fuel done (cs.flatMap escape ++ '"' :: rest) =
      .ok (String.ofList (done.reverse ++ cs), rest) := by
  induction cs generalizing fuel done with
  | nil =>
      obtain ⟨fuel, rfl⟩ : ∃ n, fuel = n + 1 := Nat.exists_eq_add_one.mpr hfuel
      rw [List.append_nil]
      rfl
  | cons c cs ih =>
      obtain ⟨fuel, rfl⟩ : ∃ n, fuel = n + 1 := Nat.exists_eq_add_one.mpr (Nat.zero_lt_of_lt hfuel)
      rw [List.flatMap_cons, List.append_assoc, textBody_escape,
        ih (Nat.lt_of_succ_lt_succ hfuel), List.reverse_cons, List.append_assoc]
      rfl

/-- **A text reads back.** -/
theorem text_renderText (s : String) :
    text (s.toList.flatMap escape ++ '"' :: rest) = .ok (s, rest) := by
  have hfuel : s.toList.length < (s.toList.flatMap escape ++ '"' :: rest).length + 1 := by
    have hle := length_le_flatMap s.toList
    rw [List.length_append]
    omega
  rw [text, textBody_flatMap hfuel, List.reverse_nil, List.nil_append, String.ofList_toList]

/-! ## 2. Integers -/

/-- What may stand behind a number: no digit, point or exponent. -/
def Stops (cs : List Char) : Prop :=
  ∀ c ∈ cs.head?, c.isDigit = false ∧ c ≠ '.' ∧ c ≠ 'e' ∧ c ≠ 'E'

theorem Stops.noDigit {cs : List Char} (h : Stops cs) : NoDigit cs := fun c hc => (h c hc).1

theorem fraction_of_stops {cs : List Char} (h : Stops cs) : fraction cs = .ok (none, cs) := by
  unfold fraction
  split
  · exact absurd rfl (h '.' rfl).2.1
  · rfl

theorem exponent_of_stops {cs : List Char} (h : Stops cs) : exponent cs = .ok (none, cs) := by
  cases cs with
  | nil => rfl
  | cons c cs =>
      obtain ⟨-, -, he, hE⟩ := h c rfl
      exact if_neg (not_or.mpr ⟨he, hE⟩)

theorem le_ofDigitChars (ds : List Char) (m : Nat) : m ≤ Nat.ofDigitChars 10 ds m := by
  rw [Nat.ofDigitChars_eq_ofDigitChars_zero]
  exact Nat.le_trans (Nat.le_mul_of_pos_left m (Nat.pow_pos (by decide))) (Nat.le_add_right _ _)

theorem absorb_of_le {ds : List Char} {m : Nat}
    (h : Nat.ofDigitChars 10 ds m ≤ maxSignificand) :
    absorb m ds = (Nat.ofDigitChars 10 ds m, []) := by
  induction ds generalizing m with
  | nil => rfl
  | cons c ds ih =>
      rw [Nat.ofDigitChars_cons, Nat.mul_comm] at h ⊢
      have hm : m * 10 + Decimal.digitValue c ≤ maxSignificand :=
        Nat.le_trans (le_ofDigitChars ds _) h
      rw [absorb, if_pos hm]
      exact ih h

theorem assemble_digits {negative : Bool} {n : Nat} (hn : n ≤ maxSignificand) :
    assemble negative (digits n) none none = .ok (integer negative n) := by
  have hvalue : Nat.ofDigitChars 10 (digits n) 0 = n := Decimal.value_digits n
  have habsorb : absorb 0 (digits n) = (n, []) := by
    rw [absorb_of_le (by rw [hvalue]; exact hn), hvalue]
  unfold assemble
  rw [habsorb]

/-- The number behind its sign. -/
def unsigned (negative : Bool) (cs : List Char) : Result Number :=
  let whole := cs.takeWhile Char.isDigit
  let rest := cs.dropWhile Char.isDigit
  match whole with
  | [] => .error .badNumber
  | '0' :: _ :: _ => .error .badNumber
  | _ =>
    match fraction rest with
    | .error f => .error f
    | .ok (frac, rest) =>
      match exponent rest with
      | .error f => .error f
      | .ok (exp, rest) =>
        match assemble negative whole frac exp with
        | .error f => .error f
        | .ok n => .ok (n, rest)

theorem number_minus (cs : List Char) : number ('-' :: cs) = unsigned true cs := rfl

theorem number_of_ne {cs : List Char} (h : cs.head? ≠ some '-') :
    number cs = unsigned false cs := by
  unfold number
  split
  rename_i hsign
  split at hsign
  · exact absurd rfl h
  · cases hsign
    rfl

theorem unsigned_digits {negative : Bool} {n : Nat} (hn : n ≤ maxSignificand) (h : Stops rest) :
    unsigned negative (digits n ++ rest) = .ok (integer negative n, rest) := by
  have hdigits : ∀ c ∈ digits n, c.isDigit = true := fun _ => Decimal.isDigit_of_mem_digits
  unfold unsigned
  dsimp only
  rw [Decimal.takeWhile_isDigit hdigits h.noDigit, Decimal.dropWhile_isDigit hdigits h.noDigit]
  split
  · exact absurd ‹_› (Decimal.digits_ne_nil n)
  · rename_i c cs hcs
    have hzero : n = 0 := Decidable.by_contra fun hn => Decimal.head_digits_ne_zero hn (by
      rw [hcs]
      rfl)
    rw [hzero] at hcs
    cases hcs
  · rw [fraction_of_stops h]
    dsimp only
    rw [exponent_of_stops h]
    dsimp only
    rw [assemble_digits hn]

/-- **An integer of at most 64 bits reads back.** -/
theorem number_signed {n : Int} (hmin : -(Nat.pow 2 63 : Int) ≤ n) (hmax : n ≤ maxSignificand)
    (h : Stops rest) : number (Decimal.signed n ++ rest) = .ok (.integer n, rest) := by
  have hpow : Nat.pow 2 63 ≤ maxSignificand := by decide
  unfold Decimal.signed
  split
  · rename_i hneg
    rw [List.cons_append, number_minus, unsigned_digits (by omega) h]
    have hn : -(n.natAbs : Int) = n := by omega
    have hsmall : 0 < n.natAbs ∧ n.natAbs ≤ Nat.pow 2 63 := by omega
    rw [integer, if_pos rfl, if_pos hsmall, hn]
  · rename_i hneg
    have hhead : (digits n.natAbs ++ rest).head? ≠ some '-' := by
      obtain ⟨c, cs, hcs⟩ := List.exists_cons_of_ne_nil (Decimal.digits_ne_nil n.natAbs)
      have hc : c.isDigit = true := Decimal.isDigit_of_mem_digits (n := n.natAbs) (by
        rw [hcs]
        exact List.mem_cons_self)
      rw [hcs]
      rintro ⟨⟩
      exact absurd hc (by decide)
    rw [number_of_ne hhead, unsigned_digits (by omega) h]
    have hn : (n.natAbs : Int) = n := by omega
    rw [integer, if_neg Bool.false_ne_true, hn]

/-! ## 3. Values -/

theorem dropSpace_of_ne {c : Char} {cs : List Char} (h : isSpace c = false) :
    dropSpace (c :: cs) = c :: cs := List.dropWhile_cons_of_neg (by rw [h]; decide)

theorem signed_head (n : Int) :
    ∃ c cs, Decimal.signed n = c :: cs ∧ (c = '-' ∨ c.isDigit = true) := by
  unfold Decimal.signed
  split
  · exact ⟨'-', _, rfl, .inl rfl⟩
  · obtain ⟨c, cs, hcs⟩ := List.exists_cons_of_ne_nil (Decimal.digits_ne_nil n.natAbs)
    exact ⟨c, cs, hcs, .inr (Decimal.isDigit_of_mem_digits (hcs ▸ List.mem_cons_self))⟩

theorem signed_head_ne {c d : Char} (hc : c = '-' ∨ c.isDigit = true) (hminus : d ≠ '-')
    (hdigit : d.isDigit = false) : c ≠ d := by
  rcases hc with rfl | hc
  · exact hminus.symm
  · exact Decimal.ne_of_isDigit hc hdigit

theorem isSpace_signed {c : Char} (hc : c = '-' ∨ c.isDigit = true) : isSpace c = false := by
  simp only [isSpace, Bool.or_eq_false_iff, beq_eq_false_iff_ne]
  refine ⟨⟨⟨?_, ?_⟩, ?_⟩, ?_⟩ <;> exact signed_head_ne hc (by decide) (by decide)

/-- What stands in front of a written value: no blank, and no end of an array. -/
theorem render_head {depth : Nat} {v : Json} (h : Exact depth v) :
    ∃ c cs, v.render = c :: cs ∧ isSpace c = false ∧ c ≠ ']' := by
  cases h with
  | null => exact ⟨'n', _, rfl, by decide, by decide⟩
  | bool b => cases b <;> exact ⟨_, _, rfl, by decide, by decide⟩
  | @integer _ n hmin hmax =>
      obtain ⟨c, cs, hcs, hc⟩ := signed_head n
      exact ⟨c, cs, hcs, isSpace_signed hc, signed_head_ne hc (by decide) (by decide)⟩
  | string s => exact ⟨'"', _, rfl, by decide, by decide⟩
  | array h => exact ⟨'[', _, rfl, by decide, by decide⟩
  | object h => exact ⟨'\x7b', _, rfl, by decide, by decide⟩

theorem value_number {depth : Nat} {c : Char} {cs : List Char} {n : Number}
    (hc : c = '-' ∨ c.isDigit = true) (hn : number (c :: cs) = .ok (n, rest)) :
    value (fuel + 1) depth (c :: cs) = .ok (.number n, rest) := by
  have hne : ∀ d : Char, d ≠ '-' → d.isDigit = false → c ≠ d := fun d => signed_head_ne hc
  rw [value.eq_def]
  dsimp only
  rw [dropSpace_of_ne (isSpace_signed hc)]
  split
  all_goals rename_i heq
  · cases heq
  · cases heq
    exact absurd rfl (hne _ (by decide) (by decide))
  · cases heq
    exact absurd rfl (hne _ (by decide) (by decide))
  · cases heq
    exact absurd rfl (hne _ (by decide) (by decide))
  · cases heq
    exact absurd rfl (hne _ (by decide) (by decide))
  · cases heq
    exact absurd rfl (hne _ (by decide) (by decide))
  · cases heq
    exact absurd rfl (hne _ (by decide) (by decide))
  · cases heq
    rw [if_pos hc, hn]

theorem renderText_append (s : String) (rest : List Char) :
    renderText s ++ rest = '"' :: (s.toList.flatMap escape ++ '"' :: rest) := by
  simp [renderText]

theorem value_renderText (depth : Nat) (s : String) :
    value (fuel + 1) depth (renderText s ++ rest) = .ok (.string s, rest) := by
  rw [renderText_append, value.eq_def]
  dsimp only
  rw [dropSpace_of_ne (by decide)]
  simp only [text_renderText]

/-- A written value reads back with enough steps, if it ends where something else begins. -/
def ReadsBack (depth : Nat) (v : Json) : Prop :=
  ∀ (fuel : Nat) (rest : List Char), v.render.length < fuel → Stops rest →
    value fuel depth (v.render ++ rest) = .ok (v, rest)

theorem items_renderItems {depth : Nat} {vs : List Json} (hne : vs ≠ [])
    (h : ∀ v ∈ vs, Exact depth v ∧ ReadsBack depth v)
    (hfuel : (renderItems vs).length + 1 < fuel) :
    items fuel depth (renderItems vs ++ ']' :: rest) = .ok (vs, rest) := by
  have hend : Stops (']' :: rest) := by
    rintro _ ⟨⟩
    decide
  have hcomma : ∀ cs, Stops (',' :: cs) := by
    rintro cs _ ⟨⟩
    decide
  induction vs generalizing fuel with
  | nil => exact absurd rfl hne
  | cons v vs ih =>
      obtain ⟨hexact, hread⟩ := h v List.mem_cons_self
      obtain ⟨fuel, rfl⟩ : ∃ n, fuel = n + 1 := Nat.exists_eq_add_one.mpr (Nat.zero_lt_of_lt hfuel)
      rw [items]
      cases vs with
      | nil =>
          have hv : v.render.length < fuel := by
            simp only [renderItems] at hfuel
            omega
          rw [renderItems, hread fuel _ hv hend]
          dsimp only
          rw [dropSpace_of_ne (by decide)]
          rfl
      | cons w vs =>
          obtain ⟨c, cs, hcs, -⟩ := render_head hexact
          have hlength : (renderItems (v :: w :: vs)).length =
              v.render.length + ((renderItems (w :: vs)).length + 1) := by
            rw [renderItems, List.length_append, List.length_cons]
          have hpos : 0 < v.render.length := by
            rw [hcs]
            exact Nat.succ_pos _
          rw [renderItems, List.append_assoc, List.cons_append,
            hread fuel _ (by omega) (hcomma _)]
          dsimp only
          rw [dropSpace_of_ne (by decide)]
          simp only [ih (by simp) (fun x hx => h x (List.mem_cons_of_mem _ hx))
            (by omega : (renderItems (w :: vs)).length + 1 < fuel)]

theorem members_renderMembers {depth : Nat} {ms : List (String × Json)} (hne : ms ≠ [])
    (h : ∀ m ∈ ms, ReadsBack depth m.2) (hfuel : (renderMembers ms).length + 1 < fuel) :
    members fuel depth (renderMembers ms ++ '\x7d' :: rest) = .ok (ms, rest) := by
  have hend : Stops ('\x7d' :: rest) := by
    rintro _ ⟨⟩
    decide
  have hcomma : ∀ cs, Stops (',' :: cs) := by
    rintro cs _ ⟨⟩
    decide
  induction ms generalizing fuel with
  | nil => exact absurd rfl hne
  | cons m ms ih =>
      obtain ⟨name, v⟩ := m
      have hread : ReadsBack depth v := h (name, v) List.mem_cons_self
      obtain ⟨fuel, rfl⟩ : ∃ n, fuel = n + 1 := Nat.exists_eq_add_one.mpr (Nat.zero_lt_of_lt hfuel)
      cases ms with
      | nil =>
          have hv : v.render.length < fuel := by
            simp only [renderMembers, List.length_append, List.length_cons] at hfuel
            omega
          rw [renderMembers, List.append_assoc, renderText_append, members,
            dropSpace_of_ne (by decide)]
          simp only [text_renderText, List.cons_append]
          rw [dropSpace_of_ne (by decide)]
          simp only [hread fuel _ hv hend]
          rw [dropSpace_of_ne (by decide)]
          rfl
      | cons m' ms =>
          have hlength : (renderMembers ((name, v) :: m' :: ms)).length = (renderText name).length +
              (v.render.length + 1 + ((renderMembers (m' :: ms)).length + 1)) := by
            simp only [renderMembers, List.length_append, List.length_cons]
            omega
          rw [renderMembers, List.append_assoc, List.append_assoc, renderText_append, members,
            dropSpace_of_ne (by decide)]
          simp only [text_renderText, List.cons_append]
          rw [dropSpace_of_ne (by decide)]
          simp only [hread fuel _ (by omega : v.render.length < fuel) (hcomma _)]
          rw [dropSpace_of_ne (by decide)]
          simp only [ih (by simp) (fun x hx => h x (List.mem_cons_of_mem _ hx))
            (by omega : (renderMembers (m' :: ms)).length + 1 < fuel)]

theorem renderItems_head {depth : Nat} {v : Json} {vs : List Json} (h : Exact depth v) :
    ∃ c cs, renderItems (v :: vs) = c :: cs ∧ isSpace c = false ∧ c ≠ ']' := by
  obtain ⟨c, cs, hcs, hc⟩ := render_head h
  cases vs with
  | nil => exact ⟨c, cs, hcs, hc⟩
  | cons w vs => exact ⟨c, _, by rw [renderItems, hcs, List.cons_append], hc⟩

theorem renderMembers_head (m : String × Json) (ms : List (String × Json)) :
    ∃ cs, renderMembers (m :: ms) = '"' :: cs := by
  obtain ⟨name, v⟩ := m
  cases ms with
  | nil => exact ⟨_, rfl⟩
  | cons m ms => exact ⟨_, rfl⟩

/-- **Every exact value reads back**, whatever follows it. -/
theorem value_render {depth : Nat} {v : Json} (h : Exact depth v) : ReadsBack depth v := by
  induction h with
  | null =>
      intro fuel rest hfuel _
      obtain ⟨fuel, rfl⟩ : ∃ n, fuel = n + 1 := Nat.exists_eq_add_one.mpr (Nat.zero_lt_of_lt hfuel)
      rfl
  | bool b =>
      intro fuel rest hfuel _
      obtain ⟨fuel, rfl⟩ : ∃ n, fuel = n + 1 := Nat.exists_eq_add_one.mpr (Nat.zero_lt_of_lt hfuel)
      cases b <;> rfl
  | @integer _ n hmin hmax =>
      intro fuel rest hfuel hrest
      obtain ⟨fuel, rfl⟩ : ∃ n, fuel = n + 1 := Nat.exists_eq_add_one.mpr (Nat.zero_lt_of_lt hfuel)
      have hnumber := number_signed hmin hmax hrest
      obtain ⟨c, cs, hcs, hc⟩ := signed_head n
      show value (fuel + 1) _ (Decimal.signed n ++ rest) = _
      rw [hcs] at hnumber ⊢
      exact value_number hc hnumber
  | string s =>
      intro fuel rest hfuel _
      obtain ⟨fuel, rfl⟩ : ∃ n, fuel = n + 1 := Nat.exists_eq_add_one.mpr (Nat.zero_lt_of_lt hfuel)
      exact value_renderText _ s
  | @array depth vs h ih =>
      intro fuel rest hfuel _
      obtain ⟨fuel, rfl⟩ : ∃ n, fuel = n + 1 := Nat.exists_eq_add_one.mpr (Nat.zero_lt_of_lt hfuel)
      cases vs with
      | nil => rfl
      | cons v vs =>
          have hitems : items fuel depth (renderItems (v :: vs) ++ ']' :: rest) =
              .ok (v :: vs, rest) := by
            refine items_renderItems (by simp) (fun x hx => ⟨h x hx, ih x hx⟩) ?_
            simp only [render, List.length_append, List.length_cons, List.length_nil] at hfuel
            omega
          obtain ⟨c, cs, hcs, hspace, hend⟩ := @renderItems_head depth v vs (h v List.mem_cons_self)
          rw [show (Json.array (v :: vs)).render ++ rest =
            '[' :: (renderItems (v :: vs) ++ ']' :: rest) by simp [render], value.eq_def]
          dsimp only
          rw [dropSpace_of_ne (by decide)]
          rw [hcs, List.cons_append] at hitems ⊢
          simp only [dropSpace_of_ne hspace]
          split
          · rename_i heq
            cases heq
            exact absurd rfl hend
          · rw [hitems]
  | @object depth ms h ih =>
      intro fuel rest hfuel _
      obtain ⟨fuel, rfl⟩ : ∃ n, fuel = n + 1 := Nat.exists_eq_add_one.mpr (Nat.zero_lt_of_lt hfuel)
      cases ms with
      | nil => rfl
      | cons m ms =>
          have hmembers : members fuel depth (renderMembers (m :: ms) ++ '\x7d' :: rest) =
              .ok (m :: ms, rest) := by
            refine members_renderMembers (by simp) ih ?_
            simp only [render, List.length_append, List.length_cons, List.length_nil] at hfuel
            omega
          obtain ⟨cs, hcs⟩ := renderMembers_head m ms
          rw [show (Json.object (m :: ms)).render ++ rest =
            '\x7b' :: (renderMembers (m :: ms) ++ '\x7d' :: rest) by simp [render], value.eq_def]
          dsimp only
          rw [dropSpace_of_ne (by decide)]
          rw [hcs, List.cons_append] at hmembers ⊢
          simp only [dropSpace_of_ne (by decide : isSpace '"' = false)]
          split
          · rename_i heq
            cases heq
          · rw [hmembers]

end Parser

/-! ## 4. Whole texts -/

/-- **A written value reads back**, as it is listed. -/
theorem parseListed_text {v : Json} (h : Exact Parser.maxDepth v) :
    parseListed v.text = .ok v := by
  have hend : Parser.Stops [] := by simp [Parser.Stops]
  have hread := Parser.value_render h (2 * v.render.length + 2) [] (by omega) hend
  rw [List.append_nil] at hread
  unfold parseListed text
  rw [String.toList_ofList]
  dsimp only
  rw [hread]
  rfl

/-- **A written value reads back**, its objects sorted by name. -/
theorem parse_text {v : Json} (h : Exact Parser.maxDepth v) : parse v.text = .ok v.sorted := by
  rw [parse, parseListed_text h]
  rfl

/-! ## 5. No NUL -/

theorem nul_not_mem_escape (c : Char) : '\x00' ∉ escape c := by
  have hhex : ∀ n < 32, '\x00' ∉ Decimal.hexPadded 4 n := by decide +kernel
  unfold escape
  split
  iterate 7 · decide
  · split
    · rename_i hc
      simpa using hhex _ hc
    · rename_i hc
      rw [List.mem_singleton]
      rintro rfl
      exact hc (by decide)

theorem nul_not_mem_renderText (s : String) : '\x00' ∉ renderText s := by
  simp [renderText, nul_not_mem_escape]

theorem nul_not_mem_renderItems {vs : List Json} (h : ∀ v ∈ vs, '\x00' ∉ v.render) :
    '\x00' ∉ renderItems vs := by
  induction vs with
  | nil => simp [renderItems]
  | cons v rest ih =>
      obtain ⟨hv, hrest⟩ := List.forall_mem_cons.mp h
      cases rest with
      | nil => exact hv
      | cons w rest => simp [renderItems, hv, ih hrest]

theorem nul_not_mem_renderMembers {ms : List (String × Json)}
    (h : ∀ m ∈ ms, '\x00' ∉ m.2.render) : '\x00' ∉ renderMembers ms := by
  induction ms with
  | nil => simp [renderMembers]
  | cons m rest ih =>
      obtain ⟨hm, hrest⟩ := List.forall_mem_cons.mp h
      cases rest with
      | nil => simp [renderMembers, nul_not_mem_renderText, hm]
      | cons m' rest => simp [renderMembers, nul_not_mem_renderText, hm, ih hrest]

/-- **No NUL stands in a written value**, whatever its texts contain. -/
theorem nul_not_mem_render {depth : Nat} {v : Json} (h : Exact depth v) : '\x00' ∉ v.render := by
  induction h with
  | null => decide
  | bool b => cases b <;> decide
  | @integer _ n _ _ =>
      have hdigits : '\x00' ∉ digits n.natAbs := fun h =>
        absurd (Decimal.isDigit_of_mem_digits h) (by decide)
      simp only [render, renderNumber, Decimal.signed]
      split <;> simp [hdigits]
  | string s => exact nul_not_mem_renderText s
  | array h ih => simp [render, nul_not_mem_renderItems ih]
  | object h ih => simp [render, nul_not_mem_renderMembers ih]

end RealtimeChat.Json
