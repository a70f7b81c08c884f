import Mathlib.Order.MinMax
import RealtimeChat.Settings.Check
/-!
# Where doubling delays stop to double

The delay of an attempt is meant to be the base doubled once for each attempt before, and at most
the limit. The number of doublings is bounded, so for a limit that is far enough above the base
the delays stay where the bound leaves them and never come to the limit.

* `Backoff.doubled` -- the delay with as many doublings as attempts;
* `Backoff.delay_eq` -- the delay of an attempt is that of its bounded number;
* `Backoff.Reaches` -- the limit is within the bounded number of doublings;
* `Backoff.delay_doubled_iff` -- which delays are the doubled ones, that delays never go down or
  above the limit, and for which policies the limit is reached;
* `Settings.Reconnect.policy_reaches_iff` -- the settings whose policy comes to its limit.
-/

namespace RealtimeChat

namespace Backoff

variable {p : Backoff}

/-- The base doubled once for each attempt before, and at most the limit. -/
def doubled (p : Backoff) (attempt : Nat) : Duration := min (p.base * Nat.pow 2 attempt) p.limit

theorem doubled_le (p : Backoff) (attempt : Nat) : p.doubled attempt ≤ p.limit :=
  Nat.min_le_right _ _

theorem doubled_mono (p : Backoff) {m n : Nat} (h : m ≤ n) : p.doubled m ≤ p.doubled n := by
  have hpow : Nat.pow 2 m ≤ Nat.pow 2 n := Nat.pow_le_pow_right Nat.two_pos h
  exact min_le_min_right _ (Nat.mul_le_mul_left _ hpow)

/-- The longest duration is no bound of its own for a limit that is a duration. -/
theorem delay_eq (hlimit : p.limit ≤ Duration.longest) (attempt : Nat) :
    p.delay attempt = p.doubled (min attempt maxDoublings) := by
  simp only [delay, doubled, Duration.times, min_assoc, min_eq_right hlimit]

theorem delay_eq_of_le (hlimit : p.limit ≤ Duration.longest) {attempt : Nat}
    (h : attempt ≤ maxDoublings) : p.delay attempt = p.doubled attempt := by
  rw [delay_eq hlimit, Nat.min_eq_left h]

theorem delay_eq_of_ge (hlimit : p.limit ≤ Duration.longest) {attempt : Nat}
    (h : maxDoublings ≤ attempt) : p.delay attempt = p.doubled maxDoublings := by
  rw [delay_eq hlimit, Nat.min_eq_right h]

/-- The limit is within the bounded number of doublings. -/
def Reaches (p : Backoff) : Prop := p.limit ≤ p.base * Nat.pow 2 maxDoublings

theorem reaches_iff : p.Reaches ↔ p.doubled maxDoublings = p.limit := min_eq_right_iff.symm

theorem doubled_of_short (h : ¬ p.Reaches) :
    p.doubled maxDoublings = p.base * Nat.pow 2 maxDoublings :=
  min_eq_left (Nat.le_of_not_le h)

/-- From the limit on more doublings change nothing. -/
theorem Reaches.doubled_eq (h : p.Reaches) {attempt : Nat} (hge : maxDoublings ≤ attempt) :
    p.doubled attempt = p.limit := by
  refine Nat.le_antisymm (p.doubled_le attempt) ?_
  calc p.limit = p.doubled maxDoublings := (reaches_iff.mp h).symm
    _ ≤ p.doubled attempt := p.doubled_mono hge

/-- Below the limit one more doubling makes a difference, unless there is nothing to double. -/
theorem doubled_lt (hbase : 0 < p.base) (h : ¬ p.Reaches) {attempt : Nat}
    (hlt : maxDoublings < attempt) : p.doubled maxDoublings < p.doubled attempt := by
  have hpow : Nat.pow 2 maxDoublings < Nat.pow 2 attempt := Nat.pow_lt_pow_right (by decide) hlt
  rw [doubled_of_short h]
  exact lt_min (Nat.mul_lt_mul_of_pos_left hpow hbase) (Nat.lt_of_not_le h)

theorem delay_eq_doubled_iff (hlimit : p.limit ≤ Duration.longest) (attempt : Nat) :
    p.delay attempt = p.doubled attempt ↔
      attempt ≤ maxDoublings ∨ p.base = 0 ∨ p.Reaches := by
  constructor
  · intro h
    by_contra hno
    simp only [not_or, Nat.not_le] at hno
    obtain ⟨hlt, hbase, hshort⟩ := hno
    have hmore := doubled_lt (Nat.pos_of_ne_zero hbase) hshort hlt
    rw [← h, delay_eq_of_ge hlimit (Nat.le_of_lt hlt)] at hmore
    exact Nat.lt_irrefl _ hmore
  · rintro (hle | hbase | hreaches)
    · exact delay_eq_of_le hlimit hle
    · simp only [delay, doubled, Duration.times, hbase, Nat.zero_mul, Nat.zero_min]
    · obtain hle | hge := Nat.le_total attempt maxDoublings
      · exact delay_eq_of_le hlimit hle
      · rw [delay_eq_of_ge hlimit hge, reaches_iff.mp hreaches, hreaches.doubled_eq hge]

theorem delay_mono (hlimit : p.limit ≤ Duration.longest) {m n : Nat} (h : m ≤ n) :
    p.delay m ≤ p.delay n := by
  rw [delay_eq hlimit, delay_eq hlimit]
  exact p.doubled_mono (min_le_min_right _ h)

/-- The delays come to stay at the limit exactly if it is within the bounded number of
doublings. -/
theorem eventually_limit_iff (hlimit : p.limit ≤ Duration.longest) :
    (∃ start, ∀ attempt, start ≤ attempt → p.delay attempt = p.limit) ↔ p.Reaches := by
  constructor
  · rintro ⟨start, h⟩
    have hlate := h (max start maxDoublings) (Nat.le_max_left _ _)
    rw [delay_eq_of_ge hlimit (Nat.le_max_right _ _)] at hlate
    exact reaches_iff.mpr hlate
  · intro h
    refine ⟨maxDoublings, fun attempt hge => ?_⟩
    rw [delay_eq_of_ge hlimit hge]
    exact reaches_iff.mp h

/-- A policy that stops to double below its limit stays below it. -/
theorem delay_lt_limit (hlimit : p.limit ≤ Duration.longest) (h : ¬ p.Reaches) (attempt : Nat) :
    p.delay attempt < p.limit :=
  calc p.delay attempt = p.doubled (min attempt maxDoublings) := delay_eq hlimit attempt
    _ ≤ p.doubled maxDoublings := p.doubled_mono (Nat.min_le_right _ _)
    _ = p.base * Nat.pow 2 maxDoublings := doubled_of_short h
    _ < p.limit := Nat.lt_of_not_le h

end Backoff

/-! ## The settings -/

namespace Settings.Reconnect

/-- Any number of milliseconds that 64 bits count makes a duration. -/
theorem policy_limit_le {r : Reconnect} (h : r.maxDelayMs < Nat.pow 2 64) :
    r.policy.limit ≤ Duration.longest :=
  calc r.maxDelayMs * Duration.perMilli
      ≤ (Nat.pow 2 64 - 1) * Duration.perSecond :=
        Nat.mul_le_mul (Nat.le_sub_one_of_lt h) (by decide)
    _ ≤ Duration.longest := Nat.le_add_right _ _

theorem policy_reaches_iff (r : Reconnect) :
    r.policy.Reaches ↔ r.maxDelayMs ≤ r.baseDelayMs * Nat.pow 2 Backoff.maxDoublings := by
  have hunit : r.policy.base * Nat.pow 2 Backoff.maxDoublings =
      r.baseDelayMs * Nat.pow 2 Backoff.maxDoublings * Duration.perMilli :=
    Nat.mul_right_comm _ _ _
  rw [Backoff.Reaches, hunit]
  exact Nat.mul_le_mul_right_iff (by decide)

end Settings.Reconnect

/-! ## The formula -/

namespace Backoff

/-- **Which delays are the doubled ones.** For every policy whose limit is a duration, the delay of
an attempt is the base doubled once for each attempt before and at most the limit, exactly if the
attempt is one of the first, or there is nothing to double, or the limit is within the bounded
number of doublings. The delays never go down and never exceed the limit. They come to stay at the
limit exactly if it is within the bounded number of doublings; otherwise they stay below it, from
the bound on at one and the same delay. -/
theorem delay_doubled_iff (p : Backoff) (hlimit : p.limit ≤ Duration.longest) :
    (∀ attempt, p.delay attempt = p.doubled attempt ↔
      attempt ≤ maxDoublings ∨ p.base = 0 ∨ p.Reaches) ∧
    (∀ m n, m ≤ n → p.delay m ≤ p.delay n) ∧
    (∀ attempt, p.delay attempt ≤ p.limit) ∧
    ((∃ start, ∀ attempt, start ≤ attempt → p.delay attempt = p.limit) ↔ p.Reaches) ∧
    (¬ p.Reaches → ∀ attempt, p.delay attempt < p.limit ∧
      (maxDoublings ≤ attempt → p.delay attempt = p.base * Nat.pow 2 maxDoublings)) := by
  refine ⟨delay_eq_doubled_iff hlimit, fun m n => delay_mono hlimit, fun attempt => ?_,
    eventually_limit_iff hlimit, fun hshort attempt =>
      ⟨delay_lt_limit hlimit hshort attempt, fun hge => ?_⟩⟩
  · rw [delay_eq hlimit]
    exact p.doubled_le _
  · rw [delay_eq_of_ge hlimit hge, doubled_of_short hshort]

/-- With the settings that nobody has changed every delay is the doubled one. -/
theorem delay_doubled_iff_unchanged :
    ({} : Settings.Reconnect).policy.limit ≤ Duration.longest ∧
      ∀ attempt, ({} : Settings.Reconnect).policy.delay attempt =
        ({} : Settings.Reconnect).policy.doubled attempt := by
  have hlimit := Settings.Reconnect.policy_limit_le (r := {}) (by decide)
  have hreaches := (Settings.Reconnect.policy_reaches_iff {}).mpr (by decide)
  exact ⟨hlimit, fun attempt =>
    ((delay_doubled_iff _ hlimit).1 attempt).mpr (.inr (.inr hreaches))⟩

/-- Settings whose delays may grow from a millisecond to sixty days. -/
def patient : Settings := { reconnect := { baseDelayMs := 1, maxDelayMs := 5184000000 } }

/-- One attempt after the last doubling the delay is half of what it should be, and no delay ever
comes to the limit. -/
theorem delay_stays_short : patient.check = .ok () ∧
    patient.reconnect.policy.delay 32 = Duration.ofMillis 2147483648 ∧
    patient.reconnect.policy.doubled 32 = Duration.ofMillis 4294967296 ∧
    ∀ attempt, patient.reconnect.policy.delay attempt ≠ patient.reconnect.policy.limit := by
  have hshort : ¬ patient.reconnect.policy.Reaches := by
    rw [Settings.Reconnect.policy_reaches_iff]
    decide
  refine ⟨by decide +kernel, by decide +kernel, by decide +kernel, fun attempt => ?_⟩
  exact Nat.ne_of_lt
    (delay_lt_limit (Settings.Reconnect.policy_limit_le (by decide)) hshort attempt)

end Backoff

end RealtimeChat
