import RealtimeChat.Proofs.Engine.Isolation
/-!
# What becomes of one action in an input

Whoever asked for an action goes by its id: whether it is queued, and whether it was settled.

* `settles` -- the settlements that an input leads to;
* **`step_accounts`** -- an id that is queued before an input is queued after it or among these;
* **`submit_accounts`** -- so is the id of an action that was submitted and not refused;
* **`submit_refused`** -- a refused id was remembered before;
* **`logout_empties`** -- nobody is queued after a logout.
-/

namespace RealtimeChat.Engine

open Outbox (Operation Run Enqueued settlements admitted)

variable {τ : Type} [Transport τ]

/-! ## 1. Settlements -/

/-- The settlements that an input leads to, the first one in front. -/
def settles (e : Engine τ) (i : Input τ) : List Settlement :=
  (settlements (e.queueRun [i]).log).reverse

/-- **The list of settlements gains those that the input leads to.** -/
theorem step_settled {e : Engine τ} (h : e.Quiet) {i : Input τ} (hi : i ≠ .takeSettled) :
    (e.step i).settled = e.settled ++ e.settles i := by
  have hnone : e.taken [i] = [] := by
    cases i with
    | takeSettled => exact absurd rfl hi
    | _ => rfl
  have hlisted := (publishes h [i]).listed
  rw [hnone, List.nil_append] at hlisted
  exact hlisted.symm

/-- The ids that an input concerns are queued after it or settled by it. -/
theorem step_accounts_of {e : Engine τ} (h : e.Quiet) {i : Input τ} {id : String}
    (hid : e.outbox.contains id = true ∨ ∃ a ∈ admitted (e.queueRun [i]).log, a.id = id) :
    (e.step i).outbox.contains id = true ∨ ∃ s ∈ e.settles i, s.actionId = id := by
  have houtbox : (e.step i).outbox = (e.queueRun [i]).outbox := (publishes h [i]).outbox
  rw [houtbox]
  refine (Outbox.performAll_accounts h.sound e.timers (e.calls [i]) hid).imp_right ?_
  exact fun ⟨s, hs, hid⟩ => ⟨s, List.mem_reverse.mpr hs, hid⟩

/-- **An id that is queued before an input is queued after it or settled by it.** -/
theorem step_accounts {e : Engine τ} (h : e.Quiet) (i : Input τ) {id : String}
    (hid : e.outbox.contains id = true) :
    (e.step i).outbox.contains id = true ∨ ∃ s ∈ e.settles i, s.actionId = id :=
  step_accounts_of h (.inl hid)

/-- **Nobody is queued after a logout.** -/
theorem logout_empties {e : Engine τ} (h : e.Quiet) (now : Instant) (id : String) :
    (e.logout now).outbox.contains id = false := by
  have hholding := (logout_holding h.sound now fun _ => False).1
  refine Bool.eq_false_iff.mpr fun hcontains => ?_
  obtain ⟨c, a, ha, -⟩ := hholding.sound.contains_iff.mp hcontains
  exact hholding.held c a ha

/-! ## 2. Submissions -/

section Submit

variable {e e' : Engine τ} {a : Action} {now : Instant} {outcome : Enqueued}

/-- The core after the end of typing that goes before a message. -/
def hushed (e : Engine τ) (a : Action) (now : Instant) : Engine τ :=
  if a.kind = .sendMessage then e.stopTyping a.chat now else e

/-- What becomes of a submitted action is decided when the typing has ended. -/
theorem submit_outcome (h : e.submit a now = .ok (outcome, e')) :
    a.intent.check = .ok () ∧
      outcome = ((e.hushed a now).outbox.enqueue (e.hushed a now).timers a).1 := by
  unfold submit at h
  split at h
  · cases h
  · rename_i hcheck
    obtain ⟨rfl, -⟩ := Prod.mk.inj (Except.ok.inj h)
    exact ⟨hcheck, rfl⟩

/-- What becomes of a submitted action is put on record. -/
theorem submit_on_record (hs : e.outbox.Sound) (h : e.submit a now = .ok (outcome, e')) :
    .enqueued a outcome ∈ (e.queueRun [.submit a now]).log := by
  obtain ⟨hcheck, rfl⟩ := submit_outcome h
  have hcalls : e.calls [.submit a now] = e.stopTypingCalls a now ++
      ([.enqueue a] ++ (e.flushCalls now ++ [.takeSettled])) := by
    simp only [calls, stepCalls, hcheck, List.append_nil]
    rfl
  let hushedRun := (Run.start e.outbox e.timers).performAll (e.stopTypingCalls a now)
  have houtbox : (e.hushed a now).outbox = hushedRun.outbox := (stopTyping_works hs a now).outbox
  have hmark : .enqueued a (hushedRun.outbox.enqueue hushedRun.timers a).1 ∈
      (hushedRun.perform (.enqueue a)).log :=
    List.mem_append_right _ List.mem_cons_self
  have hsame := (hushedRun.outbox.enqueue_timeless hushedRun.timers (e.hushed a now).timers a).1
  have hlater : ∃ marks, (e.queueRun [.submit a now]).log =
      marks ++ (hushedRun.perform (.enqueue a)).log := by
    unfold queueRun
    rw [hcalls, Run.performAll_append, Run.performAll_append]
    exact Run.performAll_grows _ _
  obtain ⟨marks, hlog⟩ := hlater
  rw [hlog, houtbox, hsame]
  exact List.mem_append_right _ hmark

/-- **The id of a submitted action is queued after that or settled by it**, unless the action was
refused although no action of this id is queued. -/
theorem submit_accounts (hq : e.Quiet) (h : e.submit a now = .ok (outcome, e'))
    (haccepted : outcome = .duplicateId → e.outbox.contains a.id = true) :
    e'.outbox.contains a.id = true ∨ ∃ s ∈ e.settles (.submit a now), s.actionId = a.id := by
  have hstep : e.step (.submit a now) = e' := by
    dsimp only [step]
    rw [h]
  rw [← hstep]
  refine step_accounts_of hq ?_
  by_cases hd : outcome = .duplicateId
  · exact .inl (haccepted hd)
  · exact .inr ⟨a, List.mem_filterMap.mpr ⟨_, submit_on_record hq.sound h, if_neg hd⟩, rfl⟩

/-- **A refused id was queued or remembered before**, if the id that is used for the end of typing
is another one. -/
theorem submit_refused (hs : e.outbox.Sound) (h : e.submit a now = .ok (.duplicateId, e'))
    (hnew : e.newId.1 ≠ a.id) :
    e.outbox.contains a.id = true ∨ e.outbox.settledIds.contains a.id = true := by
  obtain ⟨-, hrefused⟩ := submit_outcome h
  by_contra hnone
  obtain ⟨hi, hm⟩ : e.outbox.index.get? a.id = none ∧ e.outbox.settledIds.get? a.id = none := by
    simpa [Outbox.contains, OrderedMap.contains] using hnone
  have hhushed : (e.hushed a now).outbox.index.get? a.id = none ∧
      (e.hushed a now).outbox.settledIds.get? a.id = none := by
    unfold hushed stopTyping
    split
    · split
      · exact Outbox.enqueue_stranger hs _ hnew hi hm
      · exact ⟨hi, hm⟩
    · exact ⟨hi, hm⟩
  rcases Outbox.known_of_refused hrefused.symm with hc | hc
  · simp [Outbox.contains, OrderedMap.contains, hhushed.1] at hc
  · simp [OrderedMap.contains, hhushed.2] at hc

end Submit

end RealtimeChat.Engine
