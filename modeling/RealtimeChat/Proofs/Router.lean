import RealtimeChat.Proofs.Timer
import RealtimeChat.Router
/-!
# The deadline of a router

Typing indicators run out one after the other. Only the first one has a deadline in the timers, and
it is armed anew whenever somebody starts or stops typing.

* `Clocked` -- the deadline for typing indicators is the one of the first to run out, unless it has
  passed and is owed;
* **`dispatch_clocked`**, `expireTyping_clocked`, `clearTyping_clocked` -- operations keep it.
-/

namespace RealtimeChat.Router

open Timer (Key)
open Timers (SameBut PaidBut)

/-- The deadline for typing indicators is the one of the first to run out, unless it is owed. -/
def Clocked (r : Router) (t : Timers) (owed : List Key) : Prop :=
  .typingSweep ∉ owed → t.deadline? .typingSweep = r.typing.next?

variable {r r' : Router} {t t' : Timers} {owed : List Key}

theorem Clocked.of_typing (h : r.Clocked t owed) (hr : r'.typing = r.typing) :
    r'.Clocked t owed := fun howed => hr ▸ h howed

/-- The keys of another part of a client play no part. -/
theorem Clocked.frame {owner : Timer.Owner} {owed' : List Key} (h : r.Clocked t owed)
    (hsame : SameBut owner t t') (hpaid : PaidBut owner owed owed') (howner : owner ≠ .router) :
    r.Clocked t' owed' := by
  intro howed
  rw [hsame .typingSweep howner.symm]
  exact h ((hpaid .typingSweep howner.symm).not.mp howed)

theorem Clocked.drain (h : r.Clocked t []) (now : Instant) :
    r.Clocked (t.drain now).2 (t.due now) := by
  intro howed
  rw [Timers.deadline?_drain, if_neg howed]
  exact h List.not_mem_nil

/-- The first typing indicator to run out is the one that is waited for. -/
theorem scheduleSweep_clocked (r : Router) (t : Timers) (owed : List Key) :
    r.Clocked (r.scheduleSweep t) owed ∧ SameBut .router t (r.scheduleSweep t) := by
  unfold scheduleSweep Clocked
  cases r.typing.next? with
  | none =>
      refine ⟨fun _ => ?_, SameBut.cancel t .typingSweep⟩
      rw [Timers.deadline?_cancel, if_pos rfl]
  | some deadline =>
      refine ⟨fun _ => ?_, SameBut.schedule t .typingSweep deadline⟩
      rw [Timers.deadline?_schedule, if_pos rfl]

theorem trackTyping_clocked (h : r.Clocked t owed) (e : Event) (now : Instant) :
    (r.trackTyping e now t).1.Clocked (r.trackTyping e now t).2 owed ∧
      SameBut .router t (r.trackTyping e now t).2 := by
  unfold trackTyping
  split
  · exact scheduleSweep_clocked _ t owed
  · exact ⟨h, .refl _ t⟩

/-- **Whatever is routed**, the deadline is the one of the first typing indicator to run out. -/
theorem dispatch_clocked (h : r.Clocked t owed) (e : Event) (now : Instant) :
    (r.dispatch e now t).2.1.Clocked (r.dispatch e now t).2.2 owed ∧
      SameBut .router t (r.dispatch e now t).2.2 := by
  have hnew : ∀ dedup, Clocked { r with dedup } t owed := fun _ => h
  unfold dispatch
  cases e.dedupKey? with
  | none => exact trackTyping_clocked h e now
  | some key =>
      dsimp only
      split
      · exact trackTyping_clocked (hnew _) e now
      · exact ⟨h, .refl _ t⟩

theorem expireTyping_clocked (r : Router) (now : Instant) (t : Timers) (owed : List Key) :
    (r.expireTyping now t).2.1.Clocked (r.expireTyping now t).2.2 owed ∧
      SameBut .router t (r.expireTyping now t).2.2 :=
  scheduleSweep_clocked _ t owed

theorem clearTyping_clocked (r : Router) (t : Timers) (owed : List Key) :
    (r.clearTyping t).1.Clocked (r.clearTyping t).2 owed ∧
      SameBut .router t (r.clearTyping t).2 := by
  refine ⟨fun _ => ?_, SameBut.cancel t .typingSweep⟩
  show (t.cancel .typingSweep).deadline? .typingSweep = none
  rw [Timers.deadline?_cancel, if_pos rfl]

end RealtimeChat.Router
