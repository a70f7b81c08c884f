import RealtimeChat.Proofs.Outbox.Paths
import RealtimeChat.Proofs.Settings
import RealtimeChat.Proofs.Timer.Later
/-!
# What an outbox waits for

An outbox arms the deadline of an action when it has sent it, and once more when it has waited in
vain for an acknowledgement. If neither wait has length zero, all that it arms is for later.

* `Patient` -- outboxes that wait for some time;
* `Patient.perform`, `Patient.performAll` -- operations leave them so;
* `enqueue_later`, **`flush_later`**, **`expire_later`**, `disconnect_later` -- what they arm.
-/

namespace RealtimeChat.Outbox

open Timers (Later)

/-- The collections agree, and no wait has length zero. -/
structure Patient (o : Outbox) : Prop where
  sound : o.Sound
  ack : 0 < o.ackTimeout
  retry : ∀ attempt, 0 < o.retry.delay attempt

/-! ## 1. Patient outboxes -/

theorem new_patient {settings : Settings} (h : settings.Positive) (jitter : Binary64) :
    (Outbox.new settings.outbox { settings.reconnect.policy with jitter }).Patient where
  sound := new_sound _ _
  ack := h.ackTimeout_pos
  retry := h.delay_pos

theorem Patient.perform {r : Run} (h : r.outbox.Patient) (op : Operation) :
    (r.perform op).outbox.Patient := by
  have hpath := perform_path h.sound op
  obtain ⟨hack, hretry⟩ := hpath.keeps
    (P := fun s => s.outbox.ackTimeout = r.outbox.ackTimeout ∧ s.outbox.retry = r.outbox.retry)
    (fun hm hs => ⟨hm.settings.2.1.trans hs.1, hm.settings.2.2.trans hs.2⟩) ⟨rfl, rfl⟩
  refine ⟨(hpath.sound (h.sound.stage r.log)).outbox, ?_, fun attempt => ?_⟩
  · exact hack ▸ h.ack
  · exact hretry ▸ h.retry attempt

theorem Patient.performAll {r : Run} (h : r.outbox.Patient) (ops : List Operation) :
    (r.performAll ops).outbox.Patient := by
  induction ops generalizing r with
  | nil => exact h
  | cons op rest ih => exact ih (h.perform op)

/-! ## 2. What is armed -/

/-- To queue an action disarms at most the one that gives way to it. -/
theorem accept_later (o : Outbox) (now : Instant) (t : Timers) (a : Action) :
    Later now t (o.accept t a).2.2 := by
  unfold accept
  dsimp only
  split
  · exact .refl now t
  · split
    · exact .cancel now t _
    · exact .refl now t

theorem enqueue_later (o : Outbox) (now : Instant) (t : Timers) (a : Action) :
    Later now t (o.enqueue t a).2.2 := by
  unfold enqueue
  split
  · exact .refl now t
  · dsimp only
    split
    · exact .refl now t
    · exact .refl now t
    · exact o.accept_later now t a

theorem disconnect_later (o : Outbox) (now : Instant) (t : Timers) :
    Later now t (o.disconnect t).2 :=
  .foldl_cancel now Timer.Key.action _ t

variable {o : Outbox}

/-- **What is sent** is to be acknowledged later. -/
theorem flush_later {σ : Type} (send : σ → Outgoing → Except SendFault Unit × σ) (h : o.Patient)
    (sink : σ) (now : Instant) (t : Timers) : Later now t (o.flush send sink now t).2.2.2 := by
  have hdeadline : now < now + o.ackTimeout := Nat.lt_add_of_pos_right h.ack
  have hwalk : Later now t (o.chats.walk
      (fun f _ queue => flushQueue send (now + o.ackTimeout) f queue)
      ⟨sink, t, 0, [], false⟩).2.timers := by
    refine walk_flush_rule (P := fun _ f => Later now t f.timers) ?_ ?_ ?_ o.chats
      ⟨sink, t, 0, [], false⟩ (.refl now t)
    · exact fun _ _ hlater => hlater
    · exact fun _ _ _ _ hlater => hlater.trans (.schedule _ _ hdeadline)
    · exact fun _ _ _ _ hlater => hlater
  exact hwalk

/-- **What was not acknowledged** is to be sent again later. -/
theorem expire_later (h : o.Patient) (t : Timers) (id : String) (now : Instant) :
    Later now t (o.expire t id now).2 := by
  unfold expire
  split
  · exact .refl now t
  · split
    · dsimp only
      split
      · split <;> exact .refl now t
      · exact .schedule t _ (Nat.lt_add_of_pos_right (h.retry _))
    · exact .refl now t
    · exact .refl now t

end RealtimeChat.Outbox
