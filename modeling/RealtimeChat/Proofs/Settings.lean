import Mathlib.Order.MinMax
import RealtimeChat.Settings.Check
/-!
# What the check of settings promises

The client starts with settings that were checked. Nothing by which it waits is zero then: neither
the times in the settings nor any delay that follows from them.

* `Positive` -- the quantities that may not be zero, and the order of the delays;
* **`check_ok`** -- the check looks at all of them;
* `Backoff.delay_pos`, `Backoff.clampedJitter_isZero` -- the delays between attempts;
* `Positive.delay_pos` and the others -- the times by which the client waits.
-/

namespace RealtimeChat

namespace Settings

/-! ## 1. The check -/

/-- What may not be zero is not, and the delays are in order. -/
structure Positive (s : Settings) : Prop where
  connect : 0 < s.server.connectTimeoutMs
  interval : 0 < s.heartbeat.intervalMs
  silence : 0 < s.heartbeat.timeoutMultiplier
  base : 0 < s.reconnect.baseDelayMs
  limit : s.reconnect.baseDelayMs ≤ s.reconnect.maxDelayMs
  capacity : 0 < s.outbox.maxPerChat
  ack : 0 < s.outbox.ackTimeoutMs

theorem demand_ok {condition : Bool} {fault : Invalid} {u : Unit}
    (h : demand condition fault = .ok u) : condition = true := by
  unfold demand at h
  split at h
  · assumption
  · cases h

/-- A check of two parts finds nothing only if the first one does not, nor the second. -/
theorem bind_ok {first : Except Invalid Unit} {rest : Unit → Except Invalid Unit} {u : Unit}
    (h : first >>= rest = .ok u) : first = .ok () ∧ rest () = .ok u := by
  cases first with
  | error fault => cases h
  | ok _ => exact ⟨rfl, h⟩

/-- **The check looks at all of them.** -/
theorem check_ok {s : Settings} {u : Unit} (h : s.check = .ok u) : s.Positive := by
  unfold check at h
  obtain ⟨-, h⟩ := bind_ok h
  obtain ⟨-, h⟩ := bind_ok h
  obtain ⟨hconnect, h⟩ := bind_ok h
  obtain ⟨hheartbeat, h⟩ := bind_ok h
  obtain ⟨hdelays, h⟩ := bind_ok h
  obtain ⟨-, houtbox⟩ := bind_ok h
  have hconnect := demand_ok hconnect
  have hheartbeat := demand_ok hheartbeat
  have hdelays := demand_ok hdelays
  have houtbox := demand_ok houtbox
  simp only [Bool.and_eq_true, decide_eq_true_eq] at hconnect hheartbeat hdelays houtbox
  exact ⟨hconnect, hheartbeat.1, hheartbeat.2, hdelays.1, hdelays.2, houtbox.1, houtbox.2⟩

end Settings

/-! ## 2. Delays between attempts -/

theorem Duration.ofMillis_pos {n : Nat} (h : 0 < n) : 0 < Duration.ofMillis n :=
  Nat.mul_pos h (by decide)

/-- The number one is not smaller than zero. -/
theorem Binary64.one_lt_of_isZero {x : Binary64} (h : x.isZero = true) :
    Binary64.one.lt x = false := by
  cases x with
  | finite negative significand exponent =>
      obtain rfl : significand = 0 := by simpa [isZero] using h
      have hone : one = .finite false (Nat.pow 2 52) (-52) := by decide +kernel
      have hzero : multiple negative 0 exponent (min (-52) exponent) = 0 := by simp [multiple]
      have hpos : 0 ≤ multiple false (Nat.pow 2 52) (-52) (min (-52) exponent) :=
        Int.mul_nonneg (Int.natCast_nonneg _) (Int.pow_nonneg (by decide))
      have hnot : compare (multiple false (Nat.pow 2 52) (-52) (min (-52) exponent)) 0 ≠ .lt :=
        fun hlt => Int.not_lt.mpr hpos (Int.compare_eq_lt.mp hlt)
      simpa [hone, lt, compare?, hzero] using hnot
  | infinite negative => cases h
  | notANumber => cases h

namespace Backoff

variable {p : Backoff}

theorem delay_pos (hbase : 0 < p.base) (hlimit : p.base ≤ p.limit) (attempt : Nat) :
    0 < p.delay attempt := by
  have hgrown : 0 < p.base * Nat.pow 2 (min attempt maxDoublings) :=
    Nat.mul_pos hbase (Nat.pow_pos Nat.two_pos)
  exact lt_min (lt_min hgrown (by decide)) (Nat.lt_of_lt_of_le hbase hlimit)

/-- A jitter of zero is in bounds. -/
theorem clampedJitter_isZero (h : p.jitter.isZero = true) : p.clampedJitter.isZero = true := by
  unfold clampedJitter
  rw [Binary64.one_lt_of_isZero h]
  split
  · rfl
  · exact h

end Backoff

/-! ## 3. The times that the client waits -/

namespace Settings.Positive

variable {s : Settings} (h : s.Positive)

include h

theorem connectTimeout_pos : 0 < s.server.connectTimeout := Duration.ofMillis_pos h.connect

theorem interval_pos : 0 < s.heartbeat.interval := Duration.ofMillis_pos h.interval

theorem ackTimeout_pos : 0 < s.outbox.ackTimeout := Duration.ofMillis_pos h.ack

theorem delay_pos (attempt : Nat) : 0 < s.reconnect.policy.delay attempt :=
  Backoff.delay_pos (Duration.ofMillis_pos h.base)
    (Nat.mul_le_mul_right Duration.perMilli h.limit) attempt

end Settings.Positive

end RealtimeChat
