import RealtimeChat.Clock
/-!
# Growing delays between attempts

After each failure the next attempt waits twice as long as the one before, up to a limit. A share
of each delay may be taken off at random, so that many clients do not come back at once.

* `Backoff` -- the policy;
* `Backoff.delay` -- the delay of an attempt;
* `Backoff.jittered` -- the delay less a share that a random word decides;
* `Backoff.exhausted` -- whether to give up.
-/

namespace RealtimeChat

/-- How delays grow and when to give up. -/
structure Backoff where
  /-- The delay before the first new attempt. -/
  base : Duration
  /-- The limit of all delays. -/
  limit : Duration
  maxAttempts : Nat
  /-- The greatest share of a delay that may be taken off. -/
  jitter : Binary64
deriving DecidableEq

namespace Backoff

/-- The greatest number of doublings. -/
def maxDoublings : Nat := 31

/-- The delay of an attempt, counted from zero. -/
def delay (p : Backoff) (attempt : Nat) : Duration :=
  min (p.base.times (Nat.pow 2 (min attempt maxDoublings))) p.limit

/-- Whether so many failures in a row are too many. -/
def exhausted (p : Backoff) (failures : Nat) : Bool := p.maxAttempts ≤ failures

/-! ## Random shares -/

/-- The greatest of the fractions that a random word chooses from. -/
def maxFraction : Binary64 := .one |>.sub (.round false 1 (-52))

/-- Lower the scale until its greatest multiple does not exceed `bound`, in at most `fuel` steps. -/
def lowerScale (bound : Binary64) : Nat → Binary64 → Binary64
  | 0, scale => scale
  | fuel + 1, scale =>
    if bound.lt (scale.mul maxFraction) then lowerScale bound fuel scale.pred else scale

/-- The share between zero and `bound` that the upper 52 bits of a random word choose. -/
def share (bound : Binary64) (word : Nat) : Binary64 :=
  let scale := lowerScale bound 8 (bound.div maxFraction)
  (Binary64.round false (word / Nat.pow 2 12) (-52)).mul scale

/-- The jitter between zero and one that is meant by any other number. -/
def clampedJitter (p : Backoff) : Binary64 :=
  if p.jitter.lt (.zero false) then .zero false
  else if Binary64.one.lt p.jitter then .one
  else p.jitter

/-- The delay of an attempt, less the share that a random word chooses. -/
def jittered (p : Backoff) (attempt word : Nat) : Duration :=
  let full := p.delay attempt
  if p.clampedJitter.isZero then full
  else
    let rest := Binary64.one.sub (share p.clampedJitter word)
    Duration.ofBinarySeconds (rest.mul full.toSeconds)

end Backoff

end RealtimeChat
