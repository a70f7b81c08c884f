import RealtimeChat.Proofs.Session.Deadlines
import RealtimeChat.Proofs.Timer.Later
/-!
# What a session waits for when a deadline has passed

A session goes by one plan. If its plan has no delay of length zero, all that it arms when a
deadline has passed is for later, also where the next attempt to connect fails at once.

* `handleEvent_plan`, `handleTimer_plan` and the others -- operations keep the plan;
* `Plan.Patient` -- plans without jitter in which nothing is done at once;
* `Withholds` -- no frame was handed on;
* **`handleTimer_later`** -- a deadline that has passed arms other ones for later;
* `handleTimer_withholds` -- it hands on no frame.
-/

namespace RealtimeChat.Session

open Timers (Later)

variable {τ : Type}

/-! ## 1. The plan -/

section Plan

variable {s s' : Session τ} {timers timers' : Timers}

@[simp] theorem transition_plan (s : Session τ) (next : State) :
    (s.transition next).plan = s.plan := by
  obtain ⟨signals, heq⟩ := s.transition_eq next
  rw [heq]

theorem Retry.plan (h : Retry s timers s' timers') : s'.plan = s.plan := by
  cases h <;> rfl

variable [Transport τ]

@[simp] theorem dropConnection_plan (s : Session τ) : s.dropConnection.plan = s.plan := by
  rw [dropConnection_eq]

theorem connectionFailed_plan (s : Session τ) (reason : String) (now : Instant)
    (timers : Timers) : (s.connectionFailed reason now timers).1.plan = s.plan := by
  obtain ⟨signals, hretry⟩ := s.connectionFailed_retry reason now timers
  exact hretry.plan.trans s.dropConnection_plan

theorem openConnection_plan (s : Session τ) (now : Instant) (timers : Timers) :
    (s.openConnection now timers).1.plan = s.plan := by
  cases hl : s.login with
  | none =>
      unfold openConnection
      rw [hl]
  | some login =>
      have hdialled := openConnection_dialled hl now timers
      generalize s.openConnection now timers = answer at hdialled ⊢
      obtain ⟨s', timers'⟩ := answer
      cases hdialled with
      | opening => rfl
      | refused _ _ _ _ _ _ hretry => exact hretry.plan

theorem opened_plan (s : Session τ) (now : Instant) (timers : Timers) :
    (s.opened now timers).1.plan = s.plan := by
  unfold opened
  split
  · dsimp only
    split
    · exact transition_plan _ _
    · exact connectionFailed_plan _ _ now timers
  · rfl

theorem received_plan (s : Session τ) (id : ConnectionId) (text : String) (now : Instant)
    (timers : Timers) : (s.received id text now timers).1.plan = s.plan := by
  unfold received
  dsimp only
  cases Incoming.decode text with
  | error fault => rfl
  | ok frame =>
      cases frame with
      | authAccepted user =>
          dsimp only [activate]
          split
          · exact transition_plan _ _
          · rfl
      | authRejected reason =>
          exact (transition_plan _ _).trans (dropConnection_plan _)
      | pong => rfl
      | ack _ | event _ | error _ _ | unknown _ =>
          dsimp only
          split <;> rfl

theorem heartbeat_plan (s : Session τ) (now : Instant) (timers : Timers) :
    (s.heartbeat now timers).1.plan = s.plan := by
  have hsent : (s.sendFrame .ping).2.plan = s.plan := by
    obtain ⟨transport, heq⟩ := s.sendFrame_eq .ping
    rw [heq]
  unfold heartbeat
  generalize s.sendFrame .ping = answer at hsent
  obtain ⟨_ | ⟨⟩, sent⟩ := answer
  · exact (connectionFailed_plan _ _ now timers).trans hsent
  · exact hsent

theorem connect_plan {credentials : Credentials} {now : Instant} {answer : Session τ × Timers}
    (h : s.connect credentials now timers = .ok answer) : answer.1.plan = s.plan := by
  unfold connect at h
  split at h
  · cases h
  · cases h
    exact openConnection_plan _ now timers

theorem logout_plan (s : Session τ) (timers : Timers) : (s.logout timers).1.plan = s.plan :=
  (transition_plan _ _).trans s.dropConnection_plan

theorem handleEvent_plan (s : Session τ) (id : ConnectionId) (event : Transport.Event)
    (now : Instant) (timers : Timers) : (s.handleEvent id event now timers).1.plan = s.plan := by
  unfold handleEvent
  split
  · cases event with
    | opened => exact s.opened_plan now timers
    | frame text => exact s.received_plan id text now timers
    | failed reason => exact s.connectionFailed_plan reason now timers
    | closed => exact s.connectionFailed_plan _ now timers
  · rfl

/-- What a session does when a deadline has passed: nothing, or it gives up its connection, opens
one or proves to be alive. -/
theorem handleTimer_cases {key : Timer.Key} {now : Instant} {answer : Session τ × Timers}
    (h : s.handleTimer key now timers = some answer) :
    answer = (s, timers) ∨ (∃ reason, answer = s.connectionFailed reason now timers) ∨
      answer = s.openConnection now timers ∨ answer = s.heartbeat now timers := by
  unfold handleTimer at h
  cases key with
  | handshake | liveness =>
      cases h
      split
      · exact .inr (.inl ⟨_, rfl⟩)
      · exact .inl rfl
  | reconnect =>
      cases h
      split
      · exact .inr (.inr (.inl rfl))
      · exact .inl rfl
  | heartbeat =>
      cases h
      split
      · exact .inr (.inr (.inr rfl))
      · exact .inl rfl
  | action | typingSweep | localTyping => cases h

theorem handleTimer_plan {key : Timer.Key} {now : Instant} {answer : Session τ × Timers}
    (h : s.handleTimer key now timers = some answer) : answer.1.plan = s.plan := by
  rcases handleTimer_cases h with rfl | ⟨reason, rfl⟩ | rfl | rfl
  · rfl
  · exact s.connectionFailed_plan reason now timers
  · exact s.openConnection_plan now timers
  · exact s.heartbeat_plan now timers

end Plan

/-! ## 2. Armed for later -/

/-- A plan without jitter by which nothing is done at once. -/
structure Plan.Patient (p : Plan) : Prop where
  unjittered : p.reconnect.clampedJitter.isZero = true
  retry : ∀ attempt, 0 < p.reconnect.delay attempt
  heartbeat : 0 < p.heartbeatInterval
  handshake : 0 < p.handshakeTimeout

section Later

variable {s : Session τ}

theorem scheduleReconnect_later (h : s.plan.Patient) (now : Instant) (timers : Timers) :
    Later now timers (s.scheduleReconnect now timers).2 := by
  unfold scheduleReconnect
  split
  · exact .refl now timers
  · dsimp only
    refine .schedule timers .reconnect (Nat.lt_add_of_pos_right ?_)
    rw [Backoff.jittered, if_pos h.unjittered]
    exact h.retry s.failures

theorem cancelConnectionTimers_later (now : Instant) (timers : Timers) :
    Later now timers (cancelConnectionTimers timers) :=
  ((Later.cancel now timers .handshake).trans (.cancel now _ .heartbeat)).trans
    (.cancel now _ .liveness)

variable [Transport τ]

theorem connectionFailed_later (h : s.plan.Patient) (reason : String) (now : Instant)
    (timers : Timers) : Later now timers (s.connectionFailed reason now timers).2 := by
  have hdropped : ∀ signals, ({ s.dropConnection with signals } : Session τ).plan.Patient := by
    intro signals
    rw [← s.dropConnection_plan] at h
    exact h
  exact (cancelConnectionTimers_later now timers).trans (scheduleReconnect_later (hdropped _) now _)

/-- If the connection cannot be opened, the next attempt is for later. -/
theorem openConnection_later (h : s.plan.Patient) (now : Instant) (timers : Timers) :
    Later now timers (s.openConnection now timers).2 := by
  unfold openConnection
  split
  · exact .refl now timers
  · rename_i login _
    dsimp only
    have hplan := transition_plan ({ s with
      nextConnection := s.nextConnection + 1
      login := some { login with connections := login.connections ++ [s.nextConnection] } } :
        Session τ) .connecting
    generalize (({ s with
      nextConnection := s.nextConnection + 1
      login := some { login with connections := login.connections ++ [s.nextConnection] } } :
        Session τ).transition .connecting) = dialled at hplan ⊢
    rw [← hplan] at h
    split
    · exact .schedule timers .handshake (Nat.lt_add_of_pos_right h.handshake)
    · rename_i fault transport _
      exact scheduleReconnect_later (s := { dialled with transport }) h now timers

theorem heartbeat_later (h : s.plan.Patient) (now : Instant) (timers : Timers) :
    Later now timers (s.heartbeat now timers).2 := by
  obtain ⟨transport, heq⟩ := s.sendFrame_eq .ping
  have hsent : (s.sendFrame .ping).2.plan.Patient := by
    rw [heq]
    exact h
  unfold heartbeat
  generalize s.sendFrame .ping = answer at hsent
  obtain ⟨_ | ⟨⟩, sent⟩ := answer
  · exact connectionFailed_later hsent _ now timers
  · exact .schedule timers .heartbeat (Nat.lt_add_of_pos_right hsent.heartbeat)

/-- **What a session arms when a deadline has passed is for later.** -/
theorem handleTimer_later (h : s.plan.Patient) {key : Timer.Key} {now : Instant}
    {timers : Timers} {answer : Session τ × Timers}
    (hs : s.handleTimer key now timers = some answer) : Later now timers answer.2 := by
  rcases handleTimer_cases hs with rfl | ⟨reason, rfl⟩ | rfl | rfl
  · exact .refl now timers
  · exact connectionFailed_later h reason now timers
  · exact openConnection_later h now timers
  · exact heartbeat_later h now timers

end Later

/-! ## 3. Signals -/

/-- The signal hands on a frame. -/
def Signal.isInbound : Signal → Bool
  | .inbound _ => true
  | _ => false

/-- No frame was handed on. -/
def Withholds (s s' : Session τ) : Prop :=
  ∃ told : List Signal, s'.signals = s.signals ++ told ∧ ∀ x ∈ told, x.isInbound = false

section Withholds

variable {s s' s'' : Session τ}

theorem Withholds.still (h : s'.signals = s.signals) : Withholds s s' :=
  ⟨[], h.trans (List.append_nil _).symm, fun _ hx => absurd hx List.not_mem_nil⟩

theorem Withholds.trans (h : Withholds s s') (h' : Withholds s' s'') : Withholds s s'' := by
  obtain ⟨told, hsignals, hquiet⟩ := h
  obtain ⟨told', hsignals', hquiet'⟩ := h'
  refine ⟨told ++ told', by rw [hsignals', hsignals, List.append_assoc], fun x hx => ?_⟩
  exact (List.mem_append.mp hx).elim (hquiet x) (hquiet' x)

theorem signal_withholds {x : Signal} (hx : x.isInbound = false) : Withholds s (s.signal x) :=
  ⟨[x], rfl, fun _ hy => List.mem_singleton.mp hy ▸ hx⟩

theorem transition_withholds (s : Session τ) (next : State) :
    Withholds s (s.transition next) := by
  unfold transition
  split
  · exact .still rfl
  · exact ⟨[.stateChanged s.state next], rfl, fun _ hx => List.mem_singleton.mp hx ▸ rfl⟩

theorem scheduleReconnect_withholds (s : Session τ) (now : Instant) (timers : Timers) :
    Withholds s (s.scheduleReconnect now timers).1 := by
  unfold scheduleReconnect
  split
  · exact (signal_withholds rfl).trans (transition_withholds _ .failed)
  · dsimp only
    generalize (if s.plan.reconnect.clampedJitter.isZero then (0, s.entropy) else s.entropy.next) =
      drawn
    have hcounted : Withholds s { s with failures := s.failures + 1, entropy := drawn.2 } :=
      .still rfl
    exact (hcounted.trans (transition_withholds _ .reconnecting)).trans (signal_withholds rfl)

variable [Transport τ]

theorem connectionFailed_withholds (s : Session τ) (reason : String) (now : Instant)
    (timers : Timers) : Withholds s (s.connectionFailed reason now timers).1 := by
  have hdropped : s.dropConnection.signals = s.signals := by rw [dropConnection_eq]
  unfold connectionFailed
  dsimp only
  refine Withholds.trans ⟨_, congrArg (· ++ _) hdropped, fun x hx => ?_⟩
    (scheduleReconnect_withholds _ now _)
  split at hx
  · split at hx
    · exact List.mem_singleton.mp hx ▸ rfl
    · exact absurd hx List.not_mem_nil
  · exact absurd hx List.not_mem_nil

theorem openConnection_withholds (s : Session τ) (now : Instant) (timers : Timers) :
    Withholds s (s.openConnection now timers).1 := by
  unfold openConnection
  split
  · exact .still rfl
  · rename_i login _
    dsimp only
    have hnumbered : Withholds s { s with
        nextConnection := s.nextConnection + 1
        login := some { login with connections := login.connections ++ [s.nextConnection] } } :=
      .still rfl
    have hdials := hnumbered.trans (transition_withholds _ .connecting)
    generalize (({ s with
        nextConnection := s.nextConnection + 1
        login := some { login with connections := login.connections ++ [s.nextConnection] } } :
        Session τ).transition .connecting) = dialled at hdials ⊢
    split
    · exact hdials.trans (.still rfl)
    · rename_i fault transport _
      have hrefused : Withholds dialled { dialled with transport } := .still rfl
      exact (hdials.trans hrefused).trans (scheduleReconnect_withholds _ now timers)

theorem heartbeat_withholds (s : Session τ) (now : Instant) (timers : Timers) :
    Withholds s (s.heartbeat now timers).1 := by
  have hsent : Withholds s (s.sendFrame .ping).2 := by
    obtain ⟨transport, heq⟩ := s.sendFrame_eq .ping
    exact .still (by rw [heq])
  unfold heartbeat
  generalize s.sendFrame .ping = answer at hsent
  obtain ⟨_ | ⟨⟩, sent⟩ := answer
  · exact hsent.trans (connectionFailed_withholds _ _ now timers)
  · exact hsent

/-- **A deadline that has passed hands on no frame.** -/
theorem handleTimer_withholds {key : Timer.Key} {now : Instant} {timers : Timers}
    {answer : Session τ × Timers} (hs : s.handleTimer key now timers = some answer) :
    Withholds s answer.1 := by
  rcases handleTimer_cases hs with rfl | ⟨reason, rfl⟩ | rfl | rfl
  · exact .still rfl
  · exact s.connectionFailed_withholds reason now timers
  · exact s.openConnection_withholds now timers
  · exact s.heartbeat_withholds now timers

end Withholds

end RealtimeChat.Session
