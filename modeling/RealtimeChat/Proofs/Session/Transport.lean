import RealtimeChat.Proofs.Session.Parts
/-!
# What a session says by itself

Apart from the frames that it is given a session opens and closes connections, introduces its user
and proves to be alive. So a property of transports that these do not break is kept by all
operations of a session.

* `Spoken` -- a property of transports that a session does not break by itself;
* **`handleEvent_spoken`** and the others -- operations keep it.
-/

namespace RealtimeChat.Session

variable {τ : Type} [Transport τ]

/-- A property of transports that a session does not break by itself. -/
structure Spoken (Q : τ → Prop) : Prop where
  opened : ∀ {t : τ} id endpoint credentials, Q t →
    Q (Transport.openConnection t id endpoint credentials).2
  closed : ∀ {t : τ} id, Q t → Q (Transport.close t id)
  introduced : ∀ {t : τ} id token user, Q t → Q (Transport.send t id (.login token user)).2
  alive : ∀ {t : τ} id, Q t → Q (Transport.send t id .ping).2

omit [Transport τ] in
@[simp] theorem transition_transport (s : Session τ) (next : State) :
    (s.transition next).transport = s.transport := by
  obtain ⟨signals, heq⟩ := s.transition_eq next
  rw [heq]

omit [Transport τ] in
theorem Retry.transport {s s' : Session τ} {timers timers' : Timers}
    (h : Retry s timers s' timers') : s'.transport = s.transport := by
  cases h <;> rfl

section Spoken

variable {Q : τ → Prop} (hQ : Spoken Q) {s : Session τ} (h : Q s.transport)

include hQ h

/-! ## 1. The parts of operations -/

theorem dropConnection_spoken : Q s.dropConnection.transport := by
  rw [dropConnection_eq]
  cases s.connection with
  | none => exact h
  | some c => exact hQ.closed c.id h

theorem connectionFailed_spoken (reason : String) (now : Instant) (timers : Timers) :
    Q (s.connectionFailed reason now timers).1.transport := by
  obtain ⟨signals, hretry⟩ := s.connectionFailed_retry reason now timers
  rw [hretry.transport]
  exact dropConnection_spoken hQ h

theorem openConnection_spoken (now : Instant) (timers : Timers) :
    Q (s.openConnection now timers).1.transport := by
  cases hl : s.login with
  | none =>
      unfold openConnection
      rwa [hl]
  | some login =>
      have hopened := hQ.opened s.nextConnection s.plan.endpoint login.credentials h
      have hdialled := openConnection_dialled hl now timers
      generalize s.openConnection now timers = answer at hdialled ⊢
      obtain ⟨s', timers'⟩ := answer
      cases hdialled with
      | opening transport signals hopen =>
          rw [hopen] at hopened
          exact hopened
      | refused transport fault signals _ _ hopen hretry =>
          rw [hopen] at hopened
          exact hretry.transport ▸ hopened

theorem opened_spoken (now : Instant) (timers : Timers) : Q (s.opened now timers).1.transport := by
  unfold opened
  split
  · rename_i c login _ _ _
    have hsent := hQ.introduced c.id login.credentials.token login.credentials.user h
    dsimp only
    split
    · rename_i transport hsend
      rw [hsend] at hsent
      simpa using hsent
    · rename_i fault transport hsend
      rw [hsend] at hsent
      exact connectionFailed_spoken hQ hsent _ now timers
  · exact h

theorem rejected_spoken (reason : String) (timers : Timers) :
    Q (s.rejected reason timers).1.transport := by
  unfold rejected
  rw [transition_transport]
  exact dropConnection_spoken hQ h

theorem received_spoken (id : ConnectionId) (text : String) (now : Instant) (timers : Timers) :
    Q (s.received id text now timers).1.transport := by
  unfold received
  dsimp only
  cases Incoming.decode text with
  | error fault => exact h
  | ok frame =>
      cases frame with
      | authAccepted user =>
          dsimp only [activate]
          split
          · simpa using h
          · exact h
      | authRejected reason =>
          exact rejected_spoken (s := { s with
            connection := s.connection.map ({ · with lastActivity := now }) }) hQ h reason _
      | pong => exact h
      | ack _ | event _ | error _ _ | unknown _ =>
          dsimp only
          split <;> exact h

theorem heartbeat_spoken (now : Instant) (timers : Timers) :
    Q (s.heartbeat now timers).1.transport := by
  have hsent : Q (s.sendFrame .ping).2.transport := by
    unfold sendFrame
    split
    · rename_i c _
      split
      · exact hQ.alive c.id h
      · exact h
    · exact h
  unfold heartbeat
  generalize s.sendFrame .ping = answer at hsent
  obtain ⟨_ | ⟨⟩, sent⟩ := answer
  · exact connectionFailed_spoken hQ hsent _ now timers
  · exact hsent

/-! ## 2. Operations -/

theorem connect_spoken (credentials : Credentials) (now : Instant) (timers : Timers)
    {answer : Session τ × Timers} (hanswer : s.connect credentials now timers = .ok answer) :
    Q answer.1.transport := by
  unfold connect at hanswer
  split at hanswer
  · cases hanswer
  · cases hanswer
    exact openConnection_spoken (s := { s with
      login := some ⟨credentials, []⟩, failures := 0, activations := 0 }) hQ h now timers

theorem logout_spoken (timers : Timers) : Q (s.logout timers).1.transport := by
  unfold logout
  dsimp only
  rw [transition_transport]
  exact dropConnection_spoken hQ h

theorem handleEvent_spoken (id : ConnectionId) (event : Transport.Event) (now : Instant)
    (timers : Timers) : Q (s.handleEvent id event now timers).1.transport := by
  unfold handleEvent
  split
  · cases event with
    | opened => exact opened_spoken hQ h now timers
    | frame text => exact received_spoken hQ h id text now timers
    | failed reason => exact connectionFailed_spoken hQ h reason now timers
    | closed => exact connectionFailed_spoken hQ h _ now timers
  · exact h

theorem handleTimer_spoken (key : Timer.Key) (now : Instant) (timers : Timers)
    {answer : Session τ × Timers} (hanswer : s.handleTimer key now timers = some answer) :
    Q answer.1.transport := by
  cases key with
  | handshake =>
      cases hanswer
      split
      · exact connectionFailed_spoken hQ h _ now timers
      · exact h
  | reconnect =>
      cases hanswer
      split
      · exact openConnection_spoken hQ h now timers
      · exact h
  | heartbeat =>
      cases hanswer
      split
      · exact heartbeat_spoken hQ h now timers
      · exact h
  | liveness =>
      cases hanswer
      split
      · exact connectionFailed_spoken hQ h _ now timers
      · exact h
  | action _ | typingSweep | localTyping _ => cases hanswer

end Spoken

end RealtimeChat.Session
