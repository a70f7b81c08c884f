import RealtimeChat.Proofs.Engine.Accounts
/-!
# Submitting an action once more

An action that is queued, or was settled not long ago, is refused under its id. A caller who does
not know what became of an action may therefore submit it again. What the core does before it
looks at the id is the end of typing: a message to a chat in which the user is typing queues that
first, whether it is new or not.

* `Known` -- the id of an action is queued or remembered;
* `Undisturbed` -- nothing that actions, deadlines, typing and the store consist of has changed;
* **`submit_known`** -- a refused action makes its chat known and does nothing else;
* **`resubmit_undisturbed_iff`** -- another submission disturbs nothing iff it is not a message to
  a chat in which the user is typing.
-/

namespace RealtimeChat.Engine

variable {τ : Type} [Transport τ] {e : Engine τ} {a : Action}

/-! ## 1. What a refused action leaves alone -/

/-- The id of the action is queued, or remembered as settled. -/
def Known (e : Engine τ) (a : Action) : Prop :=
  e.outbox.contains a.id = true ∨ e.outbox.settledIds.contains a.id = true

/-- The queues with what is remembered, the settlements, the deadlines, the chats in which the user
is typing, and the store are the same. -/
structure Undisturbed (e e' : Engine τ) : Prop where
  outbox : e'.outbox = e.outbox
  settled : e'.settled = e.settled
  timers : e'.timers = e.timers
  typing : e'.localTyping = e.localTyping
  store : e'.store = e.store

omit [Transport τ] in
/-- A known id is refused by the outbox. -/
theorem enqueue_known (h : e.Known a) : e.enqueue a = (.duplicateId, e) := by
  have hknown : (e.outbox.index.contains a.id || e.outbox.settledIds.contains a.id) = true :=
    Bool.or_eq_true_iff.mpr h
  rw [enqueue, Outbox.enqueue, if_pos hknown]

/-- **A known action that does not end the typing makes its chat known and does nothing else.** -/
theorem submit_known (hempty : e.outbox.settled = []) (hstate : e.session.state ≠ .active)
    (hknown : e.Known a) (hvalid : a.intent.check = .ok ())
    (hcalm : ¬ (a.kind = .sendMessage ∧ a.chat ∈ e.localTyping)) (now : Instant) :
    e.submit a now = .ok (.duplicateId, e.noteChat a.chat none) := by
  have hhushed : (if a.kind = .sendMessage then e.stopTyping a.chat now else e) = e := by
    split
    · rename_i hkind
      exact if_neg fun htyping => hcalm ⟨hkind, htyping⟩
    · rfl
  have hrefused : (e.noteChat a.chat none).enqueue a = (.duplicateId, e.noteChat a.chat none) :=
    enqueue_known hknown
  have hflush : (e.noteChat a.chat none).flush now = e.noteChat a.chat none := if_neg hstate
  have hpublish : (e.noteChat a.chat none).publishSettled = e.noteChat a.chat none :=
    publishSettled_quiet hempty
  unfold submit
  rw [hvalid]
  simp only [hhushed, hrefused, hflush, hpublish]

/-- A message to a chat in which the user is typing ends the typing, known or not. -/
theorem submit_typing {outcome : Outbox.Enqueued} {e' : Engine τ} {now : Instant}
    (hkind : a.kind = .sendMessage) (htyping : a.chat ∈ e.localTyping)
    (h : e.submit a now = .ok (outcome, e')) : e'.localTyping = e.localTyping.erase a.chat := by
  have hstop : (e.stopTyping a.chat now).localTyping = e.localTyping.erase a.chat := by
    rw [stopTyping, if_pos htyping]
    rfl
  unfold submit at h
  split at h
  · cases h
  · obtain ⟨-, rfl⟩ := Prod.mk.inj (Except.ok.inj h)
    rw [publishSettled_localTyping, flush_localTyping, if_pos hkind, ← hstop]
    split
    · rfl
    · rfl

/-! ## 2. Another submission -/

/-- **When the session is not active, another submission of a known action is refused and disturbs
nothing, unless it is a message to a chat in which the user is typing.** -/
theorem resubmit_undisturbed_iff {e : Engine τ} (he : e.Fresh) (inputs : List (Input τ))
    (hstate : (e.run inputs).session.state ≠ .active) (hknown : (e.run inputs).Known a)
    (hvalid : a.intent.check = .ok ()) (now : Instant) :
    (∃ e', (e.run inputs).submit a now = .ok (.duplicateId, e') ∧ (e.run inputs).Undisturbed e') ↔
      ¬ (a.kind = .sendMessage ∧ a.chat ∈ (e.run inputs).localTyping) := by
  constructor
  · rintro ⟨e', hsubmit, hsame⟩ ⟨hkind, htyping⟩
    have hended := submit_typing hkind htyping hsubmit
    rw [hsame.typing] at hended
    have hlength := congrArg List.length hended
    rw [List.length_erase_of_mem htyping] at hlength
    have hpos := List.length_pos_of_mem htyping
    omega
  · intro hcalm
    have hempty := (run_quiet he.quiet inputs).empty
    exact ⟨_, submit_known hempty hstate hknown hvalid hcalm now, rfl, rfl, rfl, rfl, rfl⟩

/-- A message that waits behind another one is submitted again while the user types elsewhere. -/
theorem resubmit_undisturbed_waiting : ∃ e : Engine MemoryTransport, e.Fresh ∧
    let a := Action.new "a2" (.text "42" "two") 1
    let before := e.run [.submit (.new "a1" (.text "42" "one") 0) 0, .submit a 1,
      .keystroke "43" 2]
    before.session.state ≠ .active ∧ before.Known a ∧
      ¬ (a.kind = .sendMessage ∧ a.chat ∈ before.localTyping) ∧
      ∃ e', before.submit a 3 = .ok (.duplicateId, e') ∧ before.Undisturbed e' := by
  obtain ⟨e, he, hstate, hqueued, hcalm⟩ := exists_fresh_of (fun e =>
    let a := Action.new "a2" (.text "42" "two") 1
    let before := e.run [.submit (.new "a1" (.text "42" "one") 0) 0, .submit a 1,
      .keystroke "43" 2]
    before.session.state ≠ .active ∧ before.outbox.contains a.id = true ∧
      ¬ (a.kind = .sendMessage ∧ a.chat ∈ before.localTyping)) (by decide +kernel)
  exact ⟨e, he, hstate, .inl hqueued, hcalm,
    (resubmit_undisturbed_iff he _ hstate (.inl hqueued) (by decide) 3).mpr hcalm⟩

/-- A message that is queued is submitted again while the user types in its chat: it is refused, but
the start of typing is taken back, and both typing states are settled. -/
theorem resubmit_disturbs_typing : ∃ e : Engine MemoryTransport, e.Fresh ∧
    let a := Action.new "a1" (.text "42" "one") 0
    let before := e.run [.submit a 0, .keystroke "42" 1]
    let after := before.step (.submit a 2)
    before.session.state ≠ .active ∧ before.outbox.contains a.id = true ∧
      (before.submit a 2).toOption.map (·.1) = some .duplicateId ∧
      before.outbox.size = 2 ∧ after.outbox.size = 1 ∧
      before.settled = [] ∧ after.settled.length = 2 ∧
      before.localTyping = ["42"] ∧ after.localTyping = [] :=
  exists_fresh_of _ (by decide +kernel)

end RealtimeChat.Engine
