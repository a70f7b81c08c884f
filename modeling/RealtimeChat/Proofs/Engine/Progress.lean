import RealtimeChat.Proofs.Engine.Kept
import RealtimeChat.Proofs.Outbox.Waits
import RealtimeChat.Proofs.Router.Indicators
import RealtimeChat.Proofs.Session.Waits
/-!
# Deadlines that have passed are done with

Whoever drives the core of a client waits for the earliest deadline and has everything handled that
is due by then. To handle one key may arm others, its own among them; if one of these were due at
once, the driver would be woken at the same instant again and again. The check of the settings sees
to it that nothing is waited for that is due at once.

* `Unhurried` -- neither the session nor the outbox waits for no time;
* `run_unhurried` -- with settings that were checked, in every run;
* `Deferred` -- what was armed since is for later;
* `handleKeys_deferred` -- that is kept while the keys that are due are handled;
* `Progress` -- what comes of handling the deadlines that have passed;
* **`run_progress`** -- it comes of it in every run.
-/

namespace RealtimeChat.Engine

open Timer (Key)
open Timers (Later)

variable {τ : Type}

/-! ## 1. Engines that are in no hurry -/

/-- Neither the session nor the outbox waits for no time. -/
structure Unhurried (e : Engine τ) : Prop where
  session : e.session.plan.Patient
  outbox : e.outbox.Patient

/-- If settings that pass the check leave no delay to chance, nothing is due at once. -/
theorem plan_patient {settings : Settings} (h : settings.Positive)
    (hjitter : settings.reconnect.jitter.isZero = true) (endpoint : String) :
    (plan settings endpoint).Patient where
  unjittered := Backoff.clampedJitter_isZero hjitter
  retry := h.delay_pos
  heartbeat := h.interval_pos
  handshake := h.connectTimeout_pos

/-- A core that could be made was made from settings that pass the check. -/
theorem new_unhurried {settings : Settings} {transport : τ} {entropy : Entropy} {ids : IdSource}
    {e : Engine τ} (hnew : Engine.new settings transport entropy ids = .ok e)
    (hjitter : settings.reconnect.jitter.isZero = true) : e.Unhurried := by
  unfold Engine.new at hnew
  split at hnew
  · cases hnew
  · cases hnew
  · rename_i hcheck _
    cases hnew
    have hpositive := Settings.check_ok hcheck
    exact ⟨plan_patient hpositive hjitter _, Outbox.new_patient hpositive _⟩

variable [Transport τ]

/-- Nothing that follows from an input puts a core in a hurry. -/
theorem unhurried_kept : Kept (fun _ => True) fun e : Engine τ => e.Unhurried where
  about h hs ho _ _ := ⟨hs ▸ h.session, ho ▸ h.outbox⟩
  operate {e} op _ h :=
    ⟨h.session, Outbox.Patient.perform (r := .start e.outbox e.timers) h.outbox op⟩
  flush {e} now h := by
    refine ⟨?_, ?_⟩
    · unfold Engine.flush
      split
      · refine Outbox.flush_sink Session.sendFrame (Q := fun s : Session τ => s.plan.Patient)
          (fun s a hs => ?_) e.outbox h.session now e.timers
        obtain ⟨transport, heq⟩ := s.sendFrame_eq a.frame
        rwa [heq]
      · exact h.session
    · rw [(flush_works h.outbox.sound now).outbox]
      exact Outbox.Patient.performAll (r := .start e.outbox e.timers) h.outbox _
  resync {e} h := by
    obtain ⟨historyRequests, heq⟩ := e.requestResync_eq
    rw [heq]
    exact ⟨h.session, h.outbox⟩
  timer {e key now answer} h hanswer := by
    refine ⟨?_, h.outbox⟩
    show answer.1.plan.Patient
    rw [Session.handleTimer_plan hanswer]
    exact h.session

theorem step_unhurried {e : Engine τ} (h : e.Unhurried) (i : Input τ) : (e.step i).Unhurried := by
  refine step_kept unhurried_kept i (fun _ _ => trivial) ?_
  cases i with
  | connect credentials now =>
      dsimp only [entered]
      cases hs : e.session.connect credentials now e.timers with
      | ok answer =>
          refine ⟨?_, h.outbox⟩
          show answer.1.plan.Patient
          rw [Session.connect_plan hs]
          exact h.session
      | error state => exact h
  | logout now =>
      refine ⟨?_, Outbox.Patient.perform (r := .start e.outbox e.timers) h.outbox .cancelAll⟩
      obtain ⟨timers, heq⟩ := e.endLogin_session
      show e.endLogin.session.plan.Patient
      rw [heq, Session.logout_plan]
      exact h.session
  | event connection event now =>
      refine ⟨?_, h.outbox⟩
      show (e.session.handleEvent connection event now e.timers).1.plan.Patient
      rw [Session.handleEvent_plan]
      exact h.session
  | _ => exact ⟨h.session, h.outbox⟩

theorem run_unhurried {e : Engine τ} (h : e.Unhurried) (inputs : List (Input τ)) :
    (e.run inputs).Unhurried := by
  induction inputs generalizing e with
  | nil => exact h
  | cons i rest ih => exact ih (step_unhurried h i)

/-! ## 2. While keys are handled -/

omit [Transport τ] in
/-- Typing indicators that have not run out do so later. -/
theorem sweepTyping_later (e : Engine τ) (now : Instant) :
    Later now e.timers (e.sweepTyping now).timers := by
  obtain ⟨store, heq⟩ := e.sweepTyping_eq now
  have htyping : (e.router.expireTyping now e.timers).2.1.typing =
      (e.router.typing.expire now).2 := by
    rw [(e.router.expireTyping_eq now e.timers).2]
  rw [heq]
  show Later now e.timers ((e.router.expireTyping now e.timers).2.1.scheduleSweep e.timers)
  unfold Router.scheduleSweep
  rw [htyping]
  split
  · rename_i deadline hnext
    obtain ⟨⟨who, hwho⟩, -⟩ := TypingTracker.next?_eq_some_iff.mp hnext
    have hleft : (e.router.typing.deadline? who).filter (fun d => now < d) = some deadline :=
      (e.router.typing.deadline?_expire now who).symm.trans hwho
    have hahead := (Option.filter_eq_some_iff.mp hleft).2
    exact .schedule e.timers .typingSweep (of_decide_eq_true hahead)
  · exact .cancel now e.timers .typingSweep

/-- The core is in no hurry, and what was armed since its timers were `t` is for later. -/
structure Deferred (now : Instant) (t : Timers) (e : Engine τ) : Prop where
  unhurried : e.Unhurried
  later : Later now t e.timers

namespace Deferred

variable {now : Instant} {t : Timers} {e : Engine τ}

omit [Transport τ] in
/-- Neither the plan of the session nor the outbox nor the timers are touched. -/
theorem still {e' : Engine τ} (h : Deferred now t e) (hs : e'.session.plan = e.session.plan)
    (ho : e'.outbox = e.outbox) (ht : e'.timers = e.timers) : Deferred now t e' :=
  ⟨⟨hs ▸ h.unhurried.session, ho ▸ h.unhurried.outbox⟩, ht ▸ h.later⟩

theorem flush (h : Deferred now t e) : Deferred now t (e.flush now) := by
  refine ⟨unhurried_kept.flush now h.unhurried, h.later.trans ?_⟩
  unfold Engine.flush
  split
  · exact Outbox.flush_later _ h.unhurried.outbox _ now _
  · exact .refl now _

theorem publishSettled (h : Deferred now t e) : Deferred now t e.publishSettled :=
  ⟨publishSettled_kept unhurried_kept h.unhurried, e.publishSettled_timers ▸ h.later⟩

theorem handleStateChange (h : Deferred now t e) (before after : Session.State) :
    Deferred now t (e.handleStateChange before after now) := by
  refine handleStateChange_rule (h.still rfl rfl rfl) (fun e h => ?_) (fun e h => ?_)
    fun _ h => h.flush
  · exact ⟨disconnect_kept unhurried_kept h.unhurried,
      h.later.trans (e.outbox.disconnect_later now e.timers)⟩
  · obtain ⟨historyRequests, heq⟩ := e.requestResync_eq
    rw [heq]
    exact h.still rfl rfl rfl

/-- Only a frame that is handed on could say what is due at once. -/
theorem handleSignal (h : Deferred now t e) {x : Session.Signal} (hx : x.isInbound = false) :
    Deferred now t (e.handleSignal x now) := by
  cases x with
  | stateChanged before after => exact h.handleStateChange before after
  | inbound frame => cases hx
  | connectionLost connection reason => exact h
  | malformed _ _ | reconnectScheduled _ _ | authRejected _ | reconnectExhausted _ =>
      exact h.still rfl rfl rfl

theorem signals (h : Deferred now t e) {signals : List Session.Signal}
    (hsignals : ∀ x ∈ signals, x.isInbound = false) :
    Deferred now t (signals.foldl (fun e x => Engine.handleSignal e x now) e) := by
  induction signals generalizing e with
  | nil => exact h
  | cons x rest ih =>
      obtain ⟨hx, hrest⟩ := List.forall_mem_cons.mp hsignals
      exact ih (h.handleSignal hx) hrest

theorem processSignals (h : Deferred now t e)
    (hsignals : ∀ x ∈ e.session.signals, x.isInbound = false) :
    Deferred now t (e.processSignals now) := by
  have htaken : Deferred now t { e with session := e.session.takeSignals.2 } :=
    h.still rfl rfl rfl
  exact (htaken.signals hsignals).publishSettled

theorem endLocalTyping (h : Deferred now t e) (chat : String) :
    Deferred now t (e.endLocalTyping chat now) := by
  unfold Engine.endLocalTyping
  split
  · have hended : Deferred now t
        { e with localTyping := e.localTyping.erase chat, ids := e.newId.2.ids } :=
      h.still rfl rfl rfl
    have hqueued : Deferred now t
        ({ e with localTyping := e.localTyping.erase chat }.enqueueNew (.typingStop chat) now) :=
      ⟨enqueue_kept unhurried_kept hended.unhurried trivial,
        hended.later.trans (Outbox.enqueue_later _ now _ _)⟩
    exact hqueued.flush
  · exact h

/-- **A deadline that has passed** arms others for later. -/
theorem handleTimer (h : Deferred now t e) (htold : e.session.signals = []) (key : Key) :
    Deferred now t (e.handleTimer key now) := by
  unfold Engine.handleTimer
  cases hs : e.session.handleTimer key now e.timers with
  | some answer =>
      obtain ⟨told, hsignals, hquiet⟩ := Session.handleTimer_withholds hs
      have hanswered : Deferred now t { e with session := answer.1, timers := answer.2 } := by
        refine ⟨⟨?_, h.unhurried.outbox⟩,
          h.later.trans (Session.handleTimer_later h.unhurried.session hs)⟩
        rw [Session.handleTimer_plan hs]
        exact h.unhurried.session
      refine hanswered.processSignals fun x hx => hquiet x ?_
      rwa [hsignals, htold, List.nil_append] at hx
  | none =>
      refine publishSettled ?_
      cases key with
      | action id =>
          have hexpired : Deferred now t { e with
              outbox := (e.outbox.expire e.timers id now).1
              timers := (e.outbox.expire e.timers id now).2 } :=
            ⟨unhurried_kept.about (unhurried_kept.operate (.expire id now) nofun h.unhurried)
              rfl rfl rfl rfl, h.later.trans (Outbox.expire_later h.unhurried.outbox _ id now)⟩
          exact hexpired.flush
      | typingSweep =>
          obtain ⟨store, heq⟩ := e.sweepTyping_eq now
          refine ⟨?_, h.later.trans (e.sweepTyping_later now)⟩
          simp only [heq]
          exact ⟨h.unhurried.session, h.unhurried.outbox⟩
      | localTyping chat => exact h.endLocalTyping chat
      | handshake | reconnect | heartbeat | liveness => exact h

end Deferred

/-- **While keys are handled, what is armed is for later.** -/
theorem handleKeys_deferred {now : Instant} {t : Timers} (keys : List Key) {e : Engine τ}
    (h : Deferred now t e) (htold : e.session.signals = []) :
    Deferred now t (keys.foldl (fun e key => handleTimer e key now) e) := by
  induction keys generalizing e with
  | nil => exact h
  | cons key rest ih =>
      exact ih (h.handleTimer htold key)
        (handleTimer_kept told_kept htold key now fun _ _ => trivial)

/-! ## 3. When all are handled -/

/-- What comes of handling the deadlines that have passed. -/
structure Progress (e : Engine τ) (now : Instant) : Prop where
  /-- The keys that are due are disarmed, and then handled one after the other: each one once, by
  deadline and then by key. -/
  handled : ∃ keys : List Key, keys.Nodup ∧ keys.Pairwise e.timers.Before ∧
    (∀ key, key ∈ keys ↔ ∃ deadline, e.timers.deadline? key = some deadline ∧ deadline ≤ now) ∧
    (∀ key, (e.timers.drain now).2.deadline? key =
      if key ∈ keys then none else e.timers.deadline? key) ∧
    e.handleTimers now = keys.foldl (fun e key => e.handleTimer key now)
      { e with timers := (e.timers.drain now).2 }
  /-- What is armed then is for later. -/
  later : ∀ key deadline, (e.handleTimers now).timers.deadline? key = some deadline →
    now < deadline
  /-- So is what the driver waits for. -/
  wakes : ∀ deadline, (e.handleTimers now).nextDeadline? = some deadline → now < deadline
  /-- There is nothing more to do up to this instant. -/
  again : ∀ earlier, earlier ≤ now → (e.handleTimers now).handleTimers earlier = e.handleTimers now

theorem handleTimers_later {e : Engine τ} (h : e.Unhurried) (htold : e.session.signals = [])
    (now : Instant) {key : Key} {deadline : Instant}
    (hd : (e.handleTimers now).timers.deadline? key = some deadline) : now < deadline := by
  have hdrained : Deferred now (e.timers.drain now).2 { e with timers := (e.timers.drain now).2 } :=
    ⟨⟨h.session, h.outbox⟩, .refl now _⟩
  exact (handleKeys_deferred _ hdrained htold).later.drained hd

theorem handleTimers_eq_self {e : Engine τ} {now : Instant}
    (h : ∀ key deadline, e.timers.deadline? key = some deadline → now < deadline) :
    e.handleTimers now = e := by
  have hnone : e.timers.due now = [] := Timers.due_eq_nil h
  have hdrain : (e.timers.drain now).2 = e.timers := Timers.drain_eq_self h
  show (e.timers.due now).foldl (fun e key => handleTimer e key now)
    { e with timers := (e.timers.drain now).2 } = e
  rw [hnone, hdrain]
  rfl

theorem Unhurried.progress {e : Engine τ} (h : e.Unhurried) (htold : e.session.signals = [])
    (now : Instant) : e.Progress now := by
  have hlater : ∀ key deadline, (e.handleTimers now).timers.deadline? key = some deadline →
      now < deadline := fun _ _ => handleTimers_later h htold now
  refine ⟨⟨e.timers.due now, e.timers.due_nodup now, e.timers.due_rising now,
    fun _ => Timers.mem_due, e.timers.deadline?_drain now, rfl⟩, hlater, fun deadline hnext => ?_,
    fun earlier hle => handleTimers_eq_self fun key deadline hd => ?_⟩
  · exact Timers.lt_next? hlater hnext
  · exact Nat.lt_of_le_of_lt hle (hlater key deadline hd)

/-- **Deadlines that have passed are done with.** For every client that could be made from settings
without jitter, and so from settings that pass the check, with any transport and any store: whatever
was done with it before and at whatever instant its deadlines are handled, the keys that are due are
handled once each, by deadline and then by key, and nothing is armed then that is due at this
instant, so whoever waits for the next deadline is not woken for the same one again. -/
theorem run_progress {settings : Settings} {transport : τ} {entropy : Entropy} {ids : IdSource}
    {e : Engine τ} (hnew : Engine.new settings transport entropy ids = .ok e)
    (hjitter : settings.reconnect.jitter.isZero = true) (store : Option Store)
    (historyEnabled : Bool) (inputs : List (Input τ)) (now : Instant) :
    (run { e with store, historyEnabled } inputs).Progress now := by
  have hfresh : Fresh { e with store, historyEnabled } :=
    ⟨settings, transport, entropy, ids, e, store, historyEnabled, hnew, rfl⟩
  have hmade := new_unhurried hnew hjitter
  have hunhurried : Unhurried { e with store, historyEnabled } := ⟨hmade.session, hmade.outbox⟩
  exact (run_unhurried hunhurried inputs).progress (run_told hfresh.told inputs) now

/-- The address of a server, and no jitter. -/
def unjittered : Settings where
  server := { wsUrl := some "wss://chat.example" }
  reconnect := { jitter := .zero false }

/-- The first attempt to connect has failed, and the second one and the end of typing are due at the
same instant. -/
theorem run_progress_unreachable : ∃ e : Engine MemoryTransport,
    Engine.new unjittered { openFault := some .timedOut } ⟨UInt64.ofNat, 0⟩ ⟨Nat.repr, 0⟩ = .ok e ∧
    unjittered.reconnect.jitter.isZero = true ∧
    let before := e.run [.connect ⟨"user", "token"⟩ 0, .keystroke "chat" 0]
    before.timers.deadline? .reconnect = some 1000000000 ∧
      before.timers.deadline? (.localTyping "chat") = some 1000000000 ∧
      before.Progress 1000000000 := by
  have ⟨e, hnew, hreconnect, htyping⟩ := exists_new_of unjittered
    ({ openFault := some .timedOut } : MemoryTransport) ⟨UInt64.ofNat, 0⟩ ⟨Nat.repr, 0⟩ (fun e =>
      let before := e.run [.connect ⟨"user", "token"⟩ 0, .keystroke "chat" 0]
      before.timers.deadline? .reconnect = some 1000000000 ∧
        before.timers.deadline? (.localTyping "chat") = some 1000000000) (by decide +kernel)
  exact ⟨e, hnew, rfl, hreconnect, htyping, run_progress hnew rfl e.store e.historyEnabled _ _⟩

end RealtimeChat.Engine
